import SchemaEvolution.Ddl.Compile
import SchemaEvolution.Proofs.Outcomes

/-!
# What parts compile to

Parts that are compiled one after the other are refused with the first of them that is, and
otherwise give the statements of each in turn (`Ddl.sequence_eq_ok`). So do the actions of a patch
(`SchemaPatch.statements_of_compile`).
-/

namespace SchemaEvolution

namespace Ddl

/-- The statements that something compiles to; none if it is refused. -/
def statementsOf : Ddl → List Sql.Statement
  | .ok e => e.statements
  | .error _ => []

@[simp] theorem statementsOf_statements (l : List Sql.Statement) :
    statementsOf (statements l) = l :=
  rfl

/-- Parts that compile all compile, and come to their statements one after the other. -/
theorem sequence_eq_ok {parts : List Ddl} {e : Emission} (h : sequence parts = .ok e) :
    (∀ part ∈ parts, ∃ r, part = .ok r) ∧ e.statements = parts.flatMap statementsOf := by
  induction parts generalizing e with
  | nil =>
    cases h
    exact ⟨nofun, rfl⟩
  | cons part rest ih =>
    rw [sequence] at h
    obtain ⟨a, ha, hparts⟩ := bind_eq_ok.mp h
    obtain ⟨b, hrest, he⟩ := bind_eq_ok.mp hparts
    cases he
    subst ha
    obtain ⟨compiled, hstatements⟩ := ih hrest
    refine ⟨fun part hpart => ?_, ?_⟩
    · rcases List.mem_cons.mp hpart with rfl | hpart
      · exact ⟨a, rfl⟩
      · exact compiled part hpart
    · rw [List.flatMap_cons, ← hstatements]
      rfl

/-- Parts that are all statements come to these statements, one after the other. -/
theorem sequence_map_statements (l : List (List Sql.Statement)) :
    sequence (l.map statements) = .ok (.ofStatements l.flatten) := by
  induction l with
  | nil => rfl
  | cons part rest ih =>
    rw [List.map_cons, sequence, ih]
    rfl

end Ddl

/-! ## Whole patches -/

namespace Compilation

/-- No statement is lost between batches. -/
theorem statements_ofEmissions (d : Dialect) (es : List Emission) :
    (ofEmissions d es).statements = es.flatMap (·.statements) := by
  rw [statements, ofEmissions, List.flatten_filter_not_isEmpty, List.flatMap_def]

end Compilation

/-- A patch that compiles comes to the statements of its actions, one after the other. -/
theorem SchemaPatch.statements_of_compile {p : SchemaPatch} {d : Dialect} {c : Compilation}
    (h : p.compile d = .ok c) :
    c.statements = p.actions.flatMap fun a => Ddl.statementsOf (Ddl.act d a) := by
  obtain ⟨es, hes, hc⟩ := bind_eq_ok.mp h
  cases hc
  rw [Compilation.statements_ofEmissions]
  generalize p.actions = actions at hes ⊢
  have pairs := forall₂_of_mapM hes
  clear hes h
  induction pairs with
  | nil => rfl
  | cons first _ ih =>
    rw [List.flatMap_cons, List.flatMap_cons, ih, first]
    rfl

end SchemaEvolution
