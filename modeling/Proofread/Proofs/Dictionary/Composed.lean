import Mathlib.Data.List.Perm.Basic
import Proofread.Proofs.Dictionary.Rows
import Proofread.Proofs.Segment.Block

namespace Proofread

namespace Dictionary

namespace Row

inductive Gives : Row → Pair → Prop
  | list (pair : Pair)   : Gives (.list [.string pair.incorrect, .string pair.correct]) pair
  | values (pair : Pair) : Gives (.values (.string pair.incorrect) (.string pair.correct)) pair
  | record {value : Json} {pair : Pair} (h : pair.IsOf value) : Gives (.record value) pair

structure Makes (row : Row) (entry : Entry) : Prop where
  texts   : row.Gives entry.pair
  pattern : Pattern.ofString? entry.incorrect = .ok entry.pattern

variable {row : Row} {pair : Pair} {entry : Entry}

theorem isOf_members {incorrect correct : Json} :
    pair.IsOf (.object [("incorrect", incorrect), ("correct", correct)]) ↔
      incorrect = .string pair.incorrect ∧ correct = .string pair.correct := by
  constructor
  · exact fun h => ⟨Option.some.inj h.incorrect, Option.some.inj h.correct⟩
  · rintro ⟨rfl, rfl⟩
    exact ⟨rfl, rfl⟩

theorem pair_record {value : Json} : (record value).pair = .ok pair ↔ pair.IsOf value := by
  rw [← Pair.ofJson_eq_ok_iff, Row.pair]
  cases Pair.ofJson value <;> simp [Row.pair.checked]

theorem pair_eq_ok_iff : row.pair = .ok pair ↔ row.Gives pair := by
  constructor
  case mpr =>
    intro h
    cases h
    case list     => rfl
    case values   => rfl
    case record h => exact pair_record.mpr h
  case mp =>
    intro h
    match row with
    | record value => exact .record (pair_record.mp h)
    | list [incorrect, correct] | values incorrect correct =>
      have members : (record (.object [("incorrect", incorrect), ("correct", correct)])).pair
          = .ok pair := h
      obtain ⟨rfl, rfl⟩ := isOf_members.mp (pair_record.mp members)
      constructor
    | list [] | list [_] | list (_ :: _ :: _ :: _) => cases h

theorem ofPair_eq_ok_iff : Entry.ofPair pair = .ok entry ↔
    entry.pair = pair ∧ Pattern.ofString? entry.incorrect = .ok entry.pattern := by
  constructor
  case mp =>
    intro h
    refine ⟨Entry.ofPair_pair h, ?_⟩
    rw [Entry.ofPair] at h
    split at h <;> cases h
    assumption
  case mpr =>
    rintro ⟨rfl, read⟩
    have read : Pattern.ofString? entry.pair.incorrect = .ok entry.pattern := read
    rw [Entry.ofPair, read]
    rfl

theorem entry_eq_ok_iff : row.entry = .ok entry ↔ row.Makes entry := by
  have parts : row.Makes entry ↔
      row.pair = .ok entry.pair ∧ Pattern.ofString? entry.incorrect = .ok entry.pattern := by
    rw [pair_eq_ok_iff]
    exact ⟨fun h => ⟨h.texts, h.pattern⟩, fun h => ⟨h.1, h.2⟩⟩
  rw [parts, Row.entry]
  cases hp : row.pair
  case error error => simp [Except.bind]
  case ok pair =>
    rw [Except.bind, ofPair_eq_ok_iff, Except.ok.injEq, eq_comm]

end Row

section

variable {rows more : List Row} {dictionary : Dictionary}

theorem ofRows_append (rows more : List Row) :
    ofRows (rows ++ more) = match ofRows rows, ofRows more with
      | .error error, _           => .error error
      | .ok _, .error error       => .error error
      | .ok dictionary, .ok added => .ok (dictionary ++ added) := by
  induction rows
  case nil =>
    rw [List.nil_append, ofRows]
    cases ofRows more <;> rfl
  case cons row rows ih =>
    rw [List.cons_append, ofRows, ofRows, ih]
    cases row.entry <;> cases ofRows rows <;> cases ofRows more <;> rfl

theorem ofRows_eq_ok_iff : ofRows rows = .ok dictionary ↔ rows.Forall₂ Row.Makes dictionary := by
  induction rows generalizing dictionary
  case nil => simp [ofRows, eq_comm]
  case cons row rows ih =>
    simp only [List.forall₂_cons_left_iff, ← ih, ← Row.entry_eq_ok_iff, ofRows]
    cases row.entry <;> cases ofRows rows <;> simp [bind, Except.bind, pure, Except.pure, eq_comm]

theorem ofRows_perm {reordered : List Row} (h : reordered.Perm rows)
    (made : ofRows rows = .ok dictionary) :
    ∃ other, ofRows reordered = .ok other ∧ other.Perm dictionary := by
  have ⟨other, each, perm⟩ := List.perm_comp_forall₂ h (ofRows_eq_ok_iff.mp made)
  exact ⟨other, ofRows_eq_ok_iff.mpr each, perm⟩

end

theorem rows_compose (rows more : List Row) (allows : AllowList) (settings : Settings)
    (text : String) :
    let found (dictionary : Dictionary) :=
      (Segment.pass allows dictionary settings text).diagnostics
    (ofRows (rows ++ more) = match ofRows rows, ofRows more with
      | .error error, _           => .error error
      | .ok _, .error error       => .error error
      | .ok dictionary, .ok added => .ok (dictionary ++ added)) ∧
    (∀ dictionary, ofRows rows = .ok dictionary ↔ rows.Forall₂ Row.Makes dictionary) ∧
    (∀ dictionary added, ∃ extra, found added = found [] ++ extra ∧
      found (dictionary ++ added) = found dictionary ++ extra) ∧
    (∀ dictionary, found dictionary = found [] ++ dictionary.flatMap (Segment.block allows text) ∧
      (found dictionary).filter (·.rule != "dictionary") = found []) ∧
    (∀ reordered dictionary, reordered.Perm rows → ofRows rows = .ok dictionary →
      ∃ other, ofRows reordered = .ok other ∧ other.Perm dictionary) := by
  intro found
  have blocks (dictionary : Dictionary) :
      found dictionary = found [] ++ dictionary.flatMap (Segment.block allows text) :=
    Segment.diagnostics_pass_blocks allows settings text dictionary
  refine ⟨ofRows_append rows more, fun _ => ofRows_eq_ok_iff, fun dictionary added => ?added,
    fun dictionary => ⟨blocks dictionary, ?others⟩, fun _ _ => ofRows_perm⟩
  case added =>
    refine ⟨added.flatMap (Segment.block allows text), blocks added, ?_⟩
    rw [blocks, blocks dictionary, List.flatMap_append, List.append_assoc]
  case others => exact Segment.filter_not_dictionary_pass allows settings text dictionary

theorem rows_compose_swapped :
    let first : Row := .values (.string "a") (.string "b")
    let last : Row := .record (.object [("correct", .string "d"), ("incorrect", .string "c?")])
    let entries : Dictionary := [⟨"a", "b", .literal "a"⟩, ⟨"c?", "d", .optional (.literal "c")⟩]
    [last, first].Perm [first, last] ∧ ofRows [first, last] = .ok entries ∧
      ∃ other, ofRows [last, first] = .ok other ∧ other.Perm entries := by
  intro first last entries
  have perm : [last, first].Perm [first, last] := .swap first last []
  have made : ofRows [first, last] = .ok entries := by decide +kernel
  have ⟨_, _, _, _, reordered⟩ := rows_compose [first, last] [] [] {} ""
  exact ⟨perm, made, reordered _ _ perm made⟩

end Dictionary

end Proofread
