import Mathlib.Algebra.GroupWithZero.Nat
import Mathlib.Data.List.Basic
import Proofread.Proofs.Appended
import Proofread.Proofs.Document.LineOrder
import Proofread.Proofs.Pattern.Enclosed

namespace Proofread

namespace MathDelimiter

open Pattern Text

-- The first place with the second, the third with the fourth, and so on.
def pairs : List Nat → List Span
  | first :: second :: rest => ⟨first, second + 1⟩ :: pairs rest
  | _                       => []

def dollarsOf (line : List Char) : List Span :=
  pairs (line.idxsOf '$')

-- From the cursor on, the first `\(` goes with the first `\)` behind it.
def parensFrom (line : List Char) (cursor : Nat) : List Span :=
  match h : enclosed? "\\(".toList "\\)".toList line cursor with
  | none                => []
  | some (start, place) => ⟨start, place + 2⟩ :: parensFrom line (place + 2)
termination_by line.length - cursor
decreasing_by
  have := enclosed?_bounds (by decide) h
  omega

def parensOf (line : List Char) : List Span :=
  parensFrom line 0

def onLines (read : List Char → List Span) : (start : Nat) → List (List Char) → List Span
  | _, []                => []
  | start, line :: lines =>
    (read line).map (·.shift start) ++ onLines read (start + line.length + 1) lines

theorem length_pairs : (places : List Nat) → (pairs places).length = places.length / 2
  | [] | [_]         => by simp [pairs]
  | _ :: _ :: places => by
    rw [pairs, List.length_cons, length_pairs places, List.length_cons, List.length_cons]
    omega

theorem length_dollarsOf (line : List Char) : (dollarsOf line).length = line.count '$' / 2 := by
  simp [dollarsOf, length_pairs, List.idxsOf, List.count]

theorem length_onLines (read : List Char → List Span) (start : Nat) (lines : List (List Char)) :
    (onLines read start lines).length = (lines.map fun line => (read line).length).sum := by
  induction lines generalizing start
  case nil => rfl
  case cons line lines ih => simp [onLines, ih]

theorem idxsOf_drop (c : Char) (text : List Char) (cursor : Nat) :
    (text.drop cursor).idxsOf c cursor
      = (find? [c] text cursor).elim [] fun place =>
          place :: (text.drop (place + 1)).idxsOf c (place + 1) := by
  by_cases hlt : cursor < text.length
  case pos =>
    have first : [c] <+: text.drop cursor ↔ text[cursor] = c := by
      rw [List.drop_eq_getElem_cons hlt, List.cons_prefix_cons, eq_comm]
      simp
    rw [List.drop_eq_getElem_cons hlt, List.idxsOf_cons]
    by_cases hc : text[cursor] = c
    case pos =>
      rw [find?_here (first.mpr hc) (Nat.le_of_lt hlt)]
      simp [hc]
    case neg =>
      rw [find?_next (mt first.mp hc)]
      simpa [hc] using idxsOf_drop c text (cursor + 1)
  case neg =>
    have none : find? [c] text cursor = none := by
      refine (find?_eq_none_iff (List.cons_ne_nil _ _)).mpr fun q hq stands => ?_
      have := lt_length_of_prefix_drop stands (List.cons_ne_nil _ _)
      omega
    rw [List.drop_eq_nil_of_le (Nat.not_lt.mp hlt), none]
    rfl
termination_by text.length - cursor

theorem find?_of_idxsOf_nil {c : Char} {line : List Char} {cursor : Nat}
    (h : (line.drop cursor).idxsOf c cursor = []) : find? [c] line cursor = none := by
  rw [idxsOf_drop] at h
  cases hp : find? [c] line cursor
  case none       => rfl
  case some place => simp [hp] at h

theorem find?_of_idxsOf_cons {c : Char} {line : List Char} {cursor place : Nat} {rest : List Nat}
    (h : (line.drop cursor).idxsOf c cursor = place :: rest) :
    find? [c] line cursor = some place ∧ (line.drop (place + 1)).idxsOf c (place + 1) = rest := by
  rw [idxsOf_drop] at h
  cases hp : find? [c] line cursor
  case none        => simp [hp] at h
  case some place' =>
    rw [hp, Option.elim_some, List.cons.injEq] at h
    exact ⟨congrArg some h.1, h.1 ▸ h.2⟩

section

variable {line : List Char} (single : '\n' ∉ line)
include single

theorem parens_spans (cursor : Nat) :
    ((delimited "\\(" "\\)").findAfter line.toArray cursor).map (·.span)
      = parensFrom line cursor := by
  fun_induction parensFrom line cursor
  case case1 cursor h =>
    rw [findAfter_delimited single (by decide) (by decide), h]
    rfl
  case case2 cursor start place h ih =>
    rw [findAfter_delimited single (by decide) (by decide), h, ← ih]
    rfl

theorem dollars_spans (cursor : Nat) :
    ((delimited "$" "$").findAfter line.toArray cursor).map (·.span)
      = pairs ((line.drop cursor).idxsOf '$' cursor) := by
  generalize hp : (line.drop cursor).idxsOf '$' cursor = places
  -- The induction is on the dollar signs that are left, two at a time, and not on the cursor.
  induction places using pairs.induct generalizing cursor
  case case1 first second rest ih =>
    obtain ⟨hf, hp⟩ := find?_of_idxsOf_cons hp
    obtain ⟨hs, hp⟩ := find?_of_idxsOf_cons hp
    have found : enclosed? "$".toList "$".toList line cursor = some (first, second) := by
      simp [enclosed?, hf, hs]
    rw [findAfter_delimited single (by decide) (by decide), found, pairs, ← ih (second + 1) hp]
    rfl
  case case2 places few =>
    have none : enclosed? "$".toList "$".toList line cursor = none := by
      cases places
      case nil => simp [enclosed?, find?_of_idxsOf_nil hp]
      case cons first rest =>
        obtain ⟨hf, hr⟩ := find?_of_idxsOf_cons hp
        cases rest
        case nil  => simp [enclosed?, hf, find?_of_idxsOf_nil hr]
        case cons => exact absurd rfl (few _ _ _)
    rw [findAfter_delimited single (by decide) (by decide), none, pairs]
    · rfl
    · exact few

end

-- A pattern that never takes a line feed finds on each line what it finds in the line alone.
theorem spans_lines {p : Pattern} (hp : p.avoids '\n') {read : List Char → List Span}
    (each : ∀ line, '\n' ∉ line → (p.findAll line.toArray).map (·.span) = read line)
    {lines : List (List Char)} (hn : lines ≠ []) (single : ∀ line ∈ lines, '\n' ∉ line)
    (start : Nat) :
    ((p.findAll (['\n'].intercalate lines).toArray).map (·.span)).map (·.shift start)
      = onLines read start lines := by
  induction lines generalizing start
  case nil => exact absurd rfl hn
  case cons line lines ih =>
    have first := each line (single line List.mem_cons_self)
    cases lines
    case nil => simp [onLines, first]
    case cons next lines =>
      have rest := ih (List.cons_ne_nil _ _) (fun other ho => single other (List.mem_cons_of_mem _ ho))
        (start + line.length + 1)
      rw [List.intercalate_cons_cons, List.append_assoc, List.singleton_append,
        findAll_append_cons _ _ hp, onLines, ← rest, List.map_append, List.map_append, first]
      congr 1
      -- What is found in the rest moves by the length of the line and its line feed.
      simp only [List.map_map]
      refine List.map_congr_left fun f _ => ?_
      simp only [Function.comp_apply, Finding.shift, Span.shift]
      congr 1 <;> omega

theorem spans_splitOn {p : Pattern} (hp : p.avoids '\n') {read : List Char → List Span}
    (each : ∀ line, '\n' ∉ line → (p.findAll line.toArray).map (·.span) = read line)
    (text : List Char) :
    (p.findAll text.toArray).map (·.span) = onLines read 0 (text.splitOn '\n') := by
  have whole := spans_lines hp each (List.splitOn_ne_nil '\n' text)
    (fun _ hl => notMem_of_mem_splitOn hl) 0
  have unmoved (span : Span) : span.shift 0 = span := by simp [Span.shift]
  rwa [List.intercalate_splitOn, funext unmoved, List.map_id'] at whole

theorem dollars_findAll (text : List Char) :
    (dollarPattern.findAll text.toArray).map (·.span) = onLines dollarsOf 0 (text.splitOn '\n') :=
  spans_splitOn dollarPattern_avoids (fun _ single => dollars_spans single 0) text

theorem parens_findAll (text : List Char) :
    (parenPattern.findAll text.toArray).map (·.span) = onLines parensOf 0 (text.splitOn '\n') :=
  spans_splitOn parenPattern_avoids (fun _ single => parens_spans single 0) text

theorem spans_ordered {p : Pattern} {text : Array Char} {spans : List Span}
    (h : (p.findAll text).map (·.span) = spans) : spans.Pairwise fun a b => a.stop ≤ b.start :=
  h ▸ (findAll_isScan p text).ordered.imp And.left

def remark (parens dollars : Nat) (span : Span) : Diagnostic where
  rule    := (advice parens dollars).1
  message := (advice parens dollars).2
  start   := span.start
  stop    := span.stop

theorem check_eq_remark (text : List Char) :
    let dollars := onLines dollarsOf 0 (text.splitOn '\n')
    let parens  := onLines parensOf 0 (text.splitOn '\n')
    check text.toArray
      = if dollars.length = 0 ∨ parens.length = 0 then []
        else (if dollars.length ≤ parens.length then dollars else parens).map
          (remark parens.length dollars.length) := by
  intro dollars parens
  have hd : (dollarPattern.findAll text.toArray).map (·.span) = dollars := dollars_findAll text
  have hp : (parenPattern.findAll text.toArray).map (·.span) = parens := parens_findAll text
  rw [← hd, ← hp]
  simp only [check, List.length_map, List.length_eq_zero_iff, Bool.or_eq_true, List.isEmpty_iff,
    apply_ite (List.map _), List.map_map]
  rfl

end MathDelimiter

theorem Document.filter_formula_check (text : String) :
    (check text).filter (·.rule == "mixed_math_delimiter")
      = MathDelimiter.check text.toList.toArray := by
  rw [check, List.filter_append, List.filter_eq_nil_iff.mpr, List.filter_eq_self.mpr,
    List.nil_append]
  · exact fun d hd => by simp [MathDelimiter.rule_eq hd]
  · intro d hd
    obtain ⟨_, _, rfl⟩ := List.mem_map.mp hd
    simp [Caption.diagnostic]

open MathDelimiter in
theorem Document.pass_formulas (text : String) :
    let lines    := text.toList.splitOn '\n'
    let dollars  := onLines dollarsOf 0 lines
    let parens   := onLines parensOf 0 lines
    let reported := (pass text).diagnostics.filter (·.rule == "mixed_math_delimiter")
    let d := (lines.map fun line => line.count '$' / 2).sum
    let p := parens.length
    dollars.length = d ∧
      reported = (if d = 0 ∨ p = 0 then [] else if d ≤ p then dollars else parens).map (remark p d) ∧
      reported.length = (if d = 0 ∨ p = 0 then 0 else min d p) ∧
      reported.Pairwise fun a b => a.stop ≤ b.start := by
  intro lines dollars parens reported d p
  have counted : dollars.length = d := by
    simp only [dollars, d, length_onLines, length_dollarsOf]
  have said : reported
      = (if d = 0 ∨ p = 0 then [] else if d ≤ p then dollars else parens).map (remark p d) := by
    rw [← counted, apply_ite (List.map _)]
    exact (filter_formula_check text).trans (check_eq_remark text.toList)
  refine ⟨counted, said, ?counts, ?order⟩
  case counts =>
    rw [said, List.length_map]
    split
    · rfl
    · split
      case isTrue hle  => rw [Nat.min_eq_left hle, counted]
      case isFalse hle => rw [Nat.min_eq_right (Nat.le_of_not_le hle)]
  case order =>
    rw [said, List.pairwise_map]
    simp only [remark, Int.ofNat_le]
    split
    · exact .nil
    · split
      · exact spans_ordered (dollars_findAll text.toList)
      · exact spans_ordered (parens_findAll text.toList)

-- A dollar sign that is left over on its line does not pair with one on the next.
example :
    (Document.pass "$a\n$b$ \\(c\\) $").diagnostics
      = [⟨"mixed_math_delimiter", "\\(...\\) と $...$ が混在しています。(1回 / 1回)", 3, 6⟩] := by
  decide +kernel

end Proofread
