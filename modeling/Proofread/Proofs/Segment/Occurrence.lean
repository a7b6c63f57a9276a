import Proofread.Proofs.Appended
import Proofread.Proofs.Pattern.Occurrence
import Proofread.Proofs.Pattern.Run
import Proofread.Proofs.Segment.Block

namespace Proofread

namespace Phrase

open Pattern Text

def remark (entry : Dictionary.Entry) (width place : Nat) : Diagnostic where
  rule    := "dictionary"
  message := message entry
  start   := place
  stop    := place + width

theorem checkEntry_eq_remark {entry : Dictionary.Entry} {width : Nat} (text : Array Char)
    (h : entry.pattern.Takes width) :
    checkEntry text entry = (entry.pattern.starts text).map (remark entry width) := by
  let said (span : Span) : Diagnostic := ⟨"dictionary", message entry, span.start, span.stop⟩
  exact h.map_findAll said

def graph : String :=
  "グラフ"

def isGraphNumber (c : Char) : Bool :=
  decide ('1' ≤ c ∧ c ≤ '9' ∨ '１' ≤ c ∧ c ≤ '９')

variable {text : List Char} {pos q : Nat}

theorem graphNumber_contains :
    (CharSet.ofRanges [('1', '9'), ('１', '９')]).contains = isGraphNumber := by
  funext c
  rw [Bool.eq_iff_iff]
  simp only [CharSet.ofRanges, CharSet.contains, List.map_cons, List.map_nil, List.any_cons,
    List.any_nil, Bool.or_false, Bool.bne_false, Bool.or_eq_true, contains_range, isGraphNumber,
    decide_eq_true_eq]

theorem matches_graphPattern : Dictionary.graphPattern.Matches text.toArray pos (pos + 4) ↔
    graph.toList <+: text.drop pos ∧ isAt isGraphNumber text (pos + 3) := by
  have ways : Dictionary.graphPattern.ways text.toArray ⟨pos, []⟩
      = ((literal graph).ways text.toArray ⟨pos, []⟩).flatMap
          ((char (.ofRanges [('1', '9'), ('１', '９')])).ways text.toArray) :=
    ways_concat_append _ _ _
  have length : graph.length = 3 := rfl
  rw [Matches, ways, ways_literal, length]
  by_cases stands : graph.toList <+: text.drop pos
  case neg => simp [stands]
  case pos => simp [stands, ways_char, graphNumber_contains]

-- The word does not reach into itself, and no number is its beginning.
theorem graphs_apart (first : Dictionary.graphPattern.Matches text.toArray q (q + 4))
    (second : Dictionary.graphPattern.Matches text.toArray pos (pos + 4)) (h : q < pos) :
    q + 4 ≤ pos := by
  have ⟨word, number⟩ := matches_graphPattern.mp first
  have ⟨word', _⟩ := matches_graphPattern.mp second
  have behind : q + 3 ≤ pos := by
    refine Nat.le_of_not_lt fun into => ?_
    have none : overlaps graph.toList = [] := by decide
    have ⟨_, hd, _⟩ := exists_overlap word word' h into
    exact List.not_mem_nil (none ▸ hd)
  refine Nat.lt_of_le_of_ne behind fun he => ?_
  have chars : graph.toList = ['グ', 'ラ', 'フ'] := by decide
  rw [chars, ← he] at word'
  have ⟨first, _⟩ := (@prefix_drop_iff 'グ' text.toArray _ _).mp word'
  rw [List.getElem?_toArray] at first
  simp [isAt, first, isGraphNumber] at number

def standsAt (entry : Dictionary.Entry) (text : List Char) (place : Nat) : Bool :=
  if entry.incorrect = "グラフ[1-9１-９]" then
    graph.toList.isPrefixOf (text.drop place) && isAt isGraphNumber text (place + 3)
  else
    entry.incorrect.toList.isPrefixOf (text.drop place)

def width (entry : Dictionary.Entry) : Nat :=
  if entry.incorrect = "グラフ[1-9１-９]" then 4 else entry.incorrect.length

def distances (entry : Dictionary.Entry) : List Nat :=
  if entry.incorrect = "いっぱい" then [3] else []

theorem builtin_distances : ∀ entry ∈ Dictionary.builtin,
    (entry.incorrect = "グラフ[1-9１-９]" ∧ entry.pattern = Dictionary.graphPattern) ∨
    (entry.incorrect ≠ "グラフ[1-9１-９]" ∧ entry.pattern = .literal entry.incorrect ∧
      entry.incorrect.toList ≠ [] ∧ distances entry = overlaps entry.incorrect.toList) := by
  decide +kernel

theorem forall_distances {entry : Dictionary.Entry} {P : Nat → Prop} :
    (∀ d ∈ distances entry, P d) ↔ (entry.incorrect = "いっぱい" → P 3) := by
  rw [distances]
  split <;> simp_all

variable {entry : Dictionary.Entry} (he : entry ∈ Dictionary.builtin)
include he

theorem builtin_takes : entry.pattern.Takes (width entry) ∧ 0 < width entry := by
  obtain ⟨name, pattern⟩ | ⟨name, pattern, hn, _⟩ := builtin_distances entry he
  case inl =>
    rw [pattern, width, if_pos name]
    exact ⟨graphPattern_takes, by decide⟩
  case inr =>
    rw [pattern, width, if_neg name]
    exact ⟨literal_takes _, length_pos_of_ne_nil hn⟩

theorem mem_starts_builtin : pos ∈ entry.pattern.starts text.toArray ↔
    standsAt entry text pos ∧
      ∀ d ∈ distances entry, ∀ q ∈ entry.pattern.starts text.toArray, q + d ≠ pos := by
  obtain ⟨name, pattern⟩ | ⟨name, pattern, hn, apart⟩ := builtin_distances entry he
  case inl =>
    have none : distances entry = [] := by rw [distances, name]; rfl
    rw [none, pattern, standsAt, if_pos name, Bool.and_eq_true, List.isPrefixOf_iff_prefix,
      ← matches_graphPattern]
    refine graphPattern_takes.mem_starts_iff_of_overlaps (by simp) (fun found => ?_)
      fun first second hlt into => absurd (graphs_apart first second hlt) (Nat.not_le.mpr into)
    have ⟨word, _⟩ := matches_graphPattern.mp found
    exact Nat.le_of_lt (lt_length_of_prefix_drop word (by decide))
  case inr =>
    rw [apart, pattern, standsAt, if_neg name, List.isPrefixOf_iff_prefix]
    exact mem_starts_literal hn

end Phrase

namespace Segment

open Phrase

theorem pass_builtin {allows : AllowList} {text : String} (settings : Settings)
    (checked : allows.exempts text = false) :
    let chars := text.toList
    let found (dictionary : Dictionary) := (pass allows dictionary settings text).diagnostics
    ∃ places : Dictionary.Entry → List Nat,
      found .builtin = found [] ++ Dictionary.builtin.flatMap (fun entry =>
        (places entry).map (remark entry (width entry))) ∧
      (∀ d ∈ found [], d.rule ≠ "dictionary") ∧
      ∀ entry ∈ Dictionary.builtin, (places entry).Pairwise (· < ·) ∧
        ∀ i, i ∈ places entry ↔ standsAt entry chars i ∧
          (entry.incorrect = "いっぱい" → ∀ j ∈ places entry, j + 3 ≠ i) := by
  intro chars found
  -- The places are those of the search. That there is no other choice is what the last part says.
  let places (entry : Dictionary.Entry) := entry.pattern.starts chars.toArray
  refine ⟨places, ?blocks, fun _ => rule_of_mem_pass_nil allows settings text,
    fun entry he => ⟨?sorted, fun i => ?place⟩⟩
  case blocks =>
    simp only [found]
    rw [diagnostics_pass_blocks]
    refine congrArg _ (List.flatMap_congr fun entry he => ?_)
    rw [block, checked]
    exact checkEntry_eq_remark chars.toArray (builtin_takes he).1
  case sorted => exact (builtin_takes he).1.starts_lt (builtin_takes he).2
  case place  => exact (mem_starts_builtin he).trans (and_congr_right fun _ => forall_distances)

-- Of three phrases that reach into one another, the second one is passed over.
theorem pass_builtin_chain :
    let allows : AllowList := ["いっぱいの"]
    let text := "いっぱいっぱいっぱい、グラフ３"
    let entry : Dictionary.Entry := .ofPhrase "いっぱい" "多く"
    let found (dictionary : Dictionary) := (pass allows dictionary {} text).diagnostics
    allows.exempts text = false ∧ entry ∈ Dictionary.builtin ∧
      ∃ places : Dictionary.Entry → List Nat,
        found .builtin = found [] ++ Dictionary.builtin.flatMap (fun entry =>
          (places entry).map (remark entry (width entry))) ∧
        0 ∈ places entry ∧ 3 ∉ places entry ∧ 6 ∈ places entry := by
  intro allows text entry found
  have checked : allows.exempts text = false := by decide +kernel
  have he : entry ∈ Dictionary.builtin := by decide +kernel
  have stands : ∀ i ∈ [0, 3, 6], standsAt entry text.toList i := by decide +kernel
  have ⟨places, blocks, _, each⟩ := pass_builtin {} checked
  have place (i : Nat) : i ∈ places entry ↔ standsAt entry text.toList i ∧
      ∀ j ∈ places entry, j + 3 ≠ i :=
    ((each entry he).2 i).trans (and_congr_right fun _ => forall_prop_of_true rfl)
  have first : 0 ∈ places entry :=
    (place 0).mpr ⟨stands 0 (by simp), fun j _ => Nat.succ_ne_zero _⟩
  have second : 3 ∉ places entry := fun h => ((place 3).mp h).2 0 first rfl
  refine ⟨checked, he, places, blocks, first, second, (place 6).mpr ⟨stands 6 (by simp), ?_⟩⟩
  intro j hj he
  obtain rfl : j = 3 := by omega
  exact second hj

end Segment

end Proofread
