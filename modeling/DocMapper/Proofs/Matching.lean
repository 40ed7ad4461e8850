import DocMapper.Filter
import DocMapper.Proofs.Checks
import DocMapper.Proofs.Equality

namespace DocMapper

/-! # What filters mean

Matching stops at the first part of a filter that fails. These lemmas say what it amounts to: a
filter selects a document when every part of it holds, and a part that is no logical operator
holds when the value at its path meets its condition.
-/

namespace Value

variable {operators : Document} {value : Option Value}

@[simp] theorem equalsOperand_document (d : Document) (operand : Value) :
    equalsOperand (some (.document d)) operand = (Value.document d).equals operand := by
  simp [equalsOperand]

/-- What equals an operand is found by it. -/
theorem equalsOperand_of_equals {v w : Value} (h : v.equals w = true) :
    equalsOperand (some v) w = true := by
  cases v with
  | array items =>
    have hbeq : (Value.array items).beq w = true := by rwa [← equals_eq_beq rfl]
    cases w with
    | array others => exact h
    | _ => cases hbeq
  | _ => exact h

theorem passesAll_eq_true {rest : Document} :
    passesAll operators value rest = .ok true ↔
      ∀ entry ∈ rest, passes operators value entry.1 entry.2 = .ok true := by
  induction rest with
  | nil => simp [passesAll]
  | cons entry rest ih =>
    obtain ⟨operator, operand⟩ := entry
    rw [passesAll, bind_eq_ok, List.forall_mem_cons, ← ih]
    constructor
    · rintro ⟨b, hb, h⟩
      cases b with
      | false => cases h
      | true => exact ⟨hb, h⟩
    · rintro ⟨hb, h⟩
      exact ⟨true, hb, h⟩

/-- The other operators matter to a search for a pattern only, and only for its options. -/
theorem passes_congr {others : Document} {operator : String} (operand : Value)
    (h : operator = "$regex" → optionsOf operators = optionsOf others) :
    passes operators value operator operand = passes others value operator operand := by
  by_cases hregex : operator = "$regex"
  · subst hregex
    simp only [passes, h rfl]
  · unfold passes
    split
    case h_10 => exact absurd rfl hregex
    all_goals rfl

/-- A condition that is no list of operators asks for equality. -/
theorem meets_of_not_operators {condition : Value} (h : condition.isOperators = false) :
    meets value condition = .ok (equalsOperand value condition) := by
  cases condition <;> simp [meets, h]

/-- A condition that is a list of operators asks for all of them. -/
theorem meets_of_operators {operators : Document}
    (h : (Value.document operators).isOperators = true) :
    meets value (.document operators) = passesAll operators value operators := by
  simp [meets, h]

end Value

namespace Document

theorem satisfies_eq_true {d : Document} {filter : Document} :
    satisfies d filter = .ok true ↔ ∀ entry ∈ filter, holds d entry.1 entry.2 = .ok true := by
  induction filter with
  | nil => simp [satisfies]
  | cons entry rest ih =>
    obtain ⟨key, condition⟩ := entry
    rw [satisfies, bind_eq_ok, List.forall_mem_cons, ← ih]
    constructor
    · rintro ⟨b, hb, h⟩
      cases b with
      | false => cases h
      | true => exact ⟨hb, h⟩
    · rintro ⟨hb, h⟩
      exact ⟨true, hb, h⟩

/-- A key that is no operator is a path, and its condition is about the value there. -/
theorem holds_of_path {key : String} (h : isOperatorKey key = false) (d : Document)
    (condition : Value) :
    holds d key condition = Value.meets (getPath? d key) condition := by
  -- the logical operators start with a dollar sign too
  have hand : key ≠ "$and" := by
    rintro rfl
    exact absurd h (by decide)
  have hor : key ≠ "$or" := by
    rintro rfl
    exact absurd h (by decide)
  cases condition <;> simp [holds, h, hand, hor]

/-- A filter on one path. -/
theorem satisfies_singleton {key : String} (h : isOperatorKey key = false) (d : Document)
    (condition : Value) :
    satisfies d [(key, condition)] = Value.meets (getPath? d key) condition := by
  rw [satisfies, holds_of_path h]
  cases Value.meets (getPath? d key) condition with
  | error e => rfl
  | ok b => cases b <;> rfl

/-! ## Clauses -/

theorem checkClauses_documents (operator : String) (filters : List Document) :
    checkClauses operator (filters.map Value.document) = .ok () := by
  refine forM_eq_ok.mpr fun clause hclause => ?_
  obtain ⟨filter, -, rfl⟩ := List.mem_map.mp hclause
  rfl

/-- A filter that is one conjunction selects by its clauses. -/
theorem satisfies_and (d : Document) (filters : List Document) :
    satisfies d [("$and", .array (filters.map Value.document))] =
      satisfiesAll d (filters.map Value.document) := by
  rw [satisfies, holds, if_pos rfl, checkClauses_documents, ok_bind]
  rcases satisfiesAll d (filters.map Value.document) with e | _ | _ <;> rfl

/-- A filter that is one disjunction selects by its clauses. -/
theorem satisfies_or (d : Document) (filters : List Document) :
    satisfies d [("$or", .array (filters.map Value.document))] =
      satisfiesAny d (filters.map Value.document) := by
  rw [satisfies, holds, if_neg (by decide), if_pos rfl, checkClauses_documents, ok_bind]
  rcases satisfiesAny d (filters.map Value.document) with e | _ | _ <;> rfl

end Document

end DocMapper
