import Mathlib.Data.List.Infix
import Mathlib.Data.List.Sort
import Proofread.Proofs.Pattern.Cursor
import Proofread.Proofs.Pattern.Phrase
import Proofread.Proofs.Text.Find

namespace Proofread

namespace Text

-- How far apart a phrase can stand twice in a text so that the one reaches into the other.
def overlaps (phrase : List Char) : List Nat :=
  (List.range' 1 (phrase.length - 1)).filter fun distance =>
    (phrase.drop distance).isPrefixOf phrase

theorem mem_overlaps_iff {phrase : List Char} {distance : Nat} :
    distance ∈ overlaps phrase ↔
      (0 < distance ∧ distance < phrase.length) ∧ phrase.drop distance <+: phrase := by
  rw [overlaps, List.mem_filter, List.mem_range'_1, List.isPrefixOf_iff_prefix]
  refine and_congr ?_ .rfl
  omega

variable {phrase text : List Char} {cursor place q : Nat}

theorem drop_prefix (first : phrase <+: text.drop q) (second : phrase <+: text.drop place)
    (h : q ≤ place) : phrase.drop (place - q) <+: phrase := by
  have common : phrase.drop (place - q) <+: text.drop place := by
    have := List.IsPrefix.drop first (place - q)
    rwa [List.drop_drop, Nat.add_sub_cancel' h] at this
  refine List.prefix_of_prefix_length_le common second ?_
  rw [List.length_drop]
  exact Nat.sub_le _ _

theorem exists_overlap (first : phrase <+: text.drop q) (second : phrase <+: text.drop place)
    (h : q < place) (into : place < q + phrase.length) : ∃ d ∈ overlaps phrase, q + d = place := by
  refine ⟨place - q, mem_overlaps_iff.mpr ⟨⟨?_, ?_⟩, drop_prefix first second h.le⟩, ?_⟩ <;> omega

def occurrencesFrom (phrase text : List Char) (hn : phrase ≠ []) (cursor : Nat) : List Nat :=
  match _ : find? phrase text cursor with
  | none       => []
  | some place => place :: occurrencesFrom phrase text hn (place + phrase.length)
termination_by text.length - cursor
decreasing_by
  have ⟨⟨hle, _⟩, stands, _⟩ := find?_eq_some_iff.mp ‹find? phrase text cursor = some place›
  have := lt_length_of_prefix_drop stands hn
  have := List.length_pos_of_ne_nil hn
  omega

-- Where the phrase stands, found or not.
def standings (phrase text : List Char) : List Nat :=
  (List.range text.length).filter fun place => phrase.isPrefixOf (text.drop place)

theorem mem_standings_iff (hn : phrase ≠ []) :
    place ∈ standings phrase text ↔ phrase <+: text.drop place := by
  rw [standings, List.mem_filter, List.mem_range, List.isPrefixOf_iff_prefix]
  exact and_iff_right_of_imp fun stands => lt_length_of_prefix_drop stands hn

end Text

namespace Pattern

open Text

variable {p : Pattern} {text : Array Char} {n pos : Nat}

theorem le_size_of_mem_starts (h : pos ∈ p.starts text) : pos ≤ text.size := by
  obtain ⟨span, hs, rfl⟩ := List.mem_map.mp h
  have := (p.findAll_isScan text).bounded span hs
  omega

namespace Takes

theorem map_findAll {β : Type} (h : p.Takes n) (f : Span → β) :
    (p.findAll text).map (fun finding => f finding.span)
      = (p.starts text).map fun place => f ⟨place, place + n⟩ := by
  rw [starts, List.map_map, List.map_map]
  refine List.map_congr_left fun finding hf => ?_
  have stop := h.stop_of_mem (List.mem_map_of_mem hf)
  exact congrArg (fun stop => f ⟨finding.span.start, stop⟩) stop

theorem mem_starts_iff_of_overlaps (h : p.Takes n) {distances : List Nat}
    (within : ∀ d ∈ distances, 0 < d ∧ d < n)
    (fits : p.Matches text pos (pos + n) → pos ≤ text.size)
    (only : ∀ {q}, p.Matches text q (q + n) → p.Matches text pos (pos + n) → q < pos →
      pos < q + n → ∃ d ∈ distances, q + d = pos) :
    pos ∈ p.starts text ↔
      p.Matches text pos (pos + n) ∧ ∀ d ∈ distances, ∀ q ∈ p.starts text, q + d ≠ pos := by
  -- Two matches of one width reach into each other only at certain distances, and it is enough to look
  -- at these.
  by_cases hp : pos ≤ text.size
  case neg => exact iff_of_false (mt le_size_of_mem_starts hp) fun found => hp (fits found.1)
  case pos =>
    rw [h.mem_starts_iff hp]
    refine and_congr_right fun matched => ⟨fun free d hd q hq he => ?_, fun free q hq hlt => ?_⟩
    · have ⟨_, inside⟩ := within d hd
      have := free q hq (by omega)
      omega
    · refine Nat.le_of_not_lt fun into => ?_
      have ⟨d, hd, he⟩ := only (h.matches_of_mem_starts hq) matched hlt into
      exact free d hd q hq he

theorem starts_lt (h : p.Takes n) (hn : 0 < n) : (p.starts text).Pairwise (· < ·) :=
  h.starts_apart.imp fun h => by omega

end Takes

variable {phrase : String}

theorem matches_literal {start stop : Nat} : (literal phrase).Matches text start stop ↔
    phrase.toList <+: text.toList.drop start ∧ stop = start + phrase.length := by
  rw [Matches, ways_literal]
  split <;> simp_all [eq_comm]

theorem length_pos_of_ne_nil (hn : phrase.toList ≠ []) : 0 < phrase.length :=
  String.length_toList ▸ List.length_pos_of_ne_nil hn

theorem mem_starts_literal (hn : phrase.toList ≠ []) :
    pos ∈ (literal phrase).starts text ↔ phrase.toList <+: text.toList.drop pos ∧
      ∀ d ∈ overlaps phrase.toList, ∀ q ∈ (literal phrase).starts text, q + d ≠ pos := by
  have stands (pos : Nat) : (literal phrase).Matches text pos (pos + phrase.length) ↔
      phrase.toList <+: text.toList.drop pos := by simp [matches_literal]
  rw [← stands]
  refine (literal_takes phrase).mem_starts_iff_of_overlaps (fun d hd => ?_) (fun found => ?_)
    fun first second hlt into => ?_
  · rw [← String.length_toList]
    exact (mem_overlaps_iff.mp hd).1
  · exact Nat.le_of_lt (lt_length_of_prefix_drop ((stands pos).mp found) hn)
  · rw [stands] at first second
    rw [← String.length_toList] at into
    exact exists_overlap first second hlt into

theorem starts_literal_of_not_overlaps (hn : phrase.toList ≠ []) (h : overlaps phrase.toList = []) :
    (literal phrase).starts text = standings phrase.toList text.toList := by
  refine List.Pairwise.eq_of_mem_iff (r := (· < ·)) ?sorted ?filtered fun pos => ?_
  case sorted   => exact (literal_takes phrase).starts_lt (length_pos_of_ne_nil hn)
  case filtered => exact List.pairwise_lt_range.filter _
  rw [mem_starts_literal hn, h, mem_standings_iff hn]
  exact and_iff_left fun _ hd => absurd hd List.not_mem_nil

theorem matchesAt_literal (hn : phrase.toList ≠ []) (pos : Nat) :
    (literal phrase).matchesAt text pos
      = if phrase.toList <+: text.toList.drop pos then [⟨⟨pos, pos + phrase.length⟩, []⟩]
        else [] := by
  have prompt : (literal phrase).IsPrompt text :=
    (literal_takes phrase).isPrompt (length_pos_of_ne_nil hn)
  rw [prompt.matchesAt_eq, matchAt?_true, ways_literal]
  split <;> rfl

theorem findAfter_literal (hn : phrase.toList ≠ []) (cursor : Nat) :
    ((literal phrase).findAfter text cursor).map (·.span.start)
      = occurrencesFrom phrase.toList text.toList hn cursor := by
  fun_induction occurrencesFrom phrase.toList text.toList hn cursor
  case case1 cursor h =>
    have none := (find?_eq_none_iff hn).mp h
    rw [findAfter_eq_nil, List.map_nil]
    intro q hq
    rw [matchesAt_literal hn, if_neg (none q hq)]
  case case2 cursor place h ih =>
    obtain ⟨⟨hle, fits⟩, stands, first⟩ := find?_eq_some_iff.mp h
    have skipped (q : Nat) (hq : cursor ≤ q) (hlt : q < place) :
        (literal phrase).matchesAt text q = [] := by
      rw [matchesAt_literal hn, if_neg (first q hq hlt)]
    have found : (literal phrase).matchesAt text place
        = [⟨⟨place, place + phrase.length⟩, []⟩] := by
      rw [matchesAt_literal hn, if_pos stands]
    have := length_pos_of_ne_nil hn
    rw [findAfter_of_forall_none hle skipped, findAfter_of_match fits found (by simp only; omega),
      List.map_cons, ← ih, String.length_toList]

theorem findFrom_empty {left next : Nat} (h : next ≤ pos) :
    empty.findFrom text left pos next
      = (List.range' pos left).map fun place => ⟨⟨place, place⟩, []⟩ := by
  have found (place : Nat) : empty.matchesAt text place = [⟨⟨place, place⟩, []⟩] := by
    simp [matchesAt, matchAt?_eq, ways]
  induction left generalizing pos next
  case zero => rfl
  case succ left ih =>
    have resumed : resume pos [⟨⟨pos, pos⟩, []⟩] = pos := rfl
    rw [findFrom_look h, found, resumed, ih (Nat.le_succ pos), List.range'_succ, List.map_cons,
      List.singleton_append]

theorem starts_empty (text : Array Char) :
    (literal "").starts text = List.range (text.size + 1) := by
  have nothing : literal "" = empty := rfl
  rw [starts, nothing, findAll, findFrom_empty (Nat.le_refl 0), List.map_map, List.map_map,
    ← List.range_eq_range']
  exact List.map_id _

theorem starts_literal (hn : phrase.toList ≠ []) :
    (literal phrase).starts text = occurrencesFrom phrase.toList text.toList hn 0 := by
  rw [starts, List.map_map]
  exact findAfter_literal hn 0

end Pattern
end Proofread
