import Proofread.Document
import Proofread.Proofs.Pattern.Pieces

namespace Proofread

namespace Caption

theorem pattern_avoids : pattern.avoids '\n' := by
  decide

theorem content_findAll (text : List Char) :
    (findAll text.toArray).map (·.content) = pattern.taken 1 text := by
  simp [findAll, ofFinding, Pattern.taken]

theorem count_repeats (content : List Char) (captions : List Caption) (seen : List (List Char)) :
    ((repeats seen captions).map (·.content)).count content
      = (captions.map (·.content)).count content - if content ∈ seen then 0 else 1 := by
  induction captions generalizing seen
  case nil => simp [repeats]
  case cons caption captions ih =>
    simp only [repeats, List.contains_eq_mem, decide_eq_true_eq]
    by_cases he : caption.content = content
    case pos =>
      subst he
      split
      case isTrue hs  => simp [ih, hs]
      case isFalse hs => simp [ih, hs]
    case neg =>
      have hm : content ∈ caption.content :: seen ↔ content ∈ seen := by simp [Ne.symm he]
      split
      case isTrue  => simp [ih, List.count_cons_of_ne he]
      case isFalse => simp only [ih, hm, List.map_cons, List.count_cons_of_ne he]

theorem repeats_perm {captions captions' : List Caption}
    (h : (captions'.map (·.content)).Perm (captions.map (·.content))) :
    ((repeats [] captions').map (·.content)).Perm ((repeats [] captions).map (·.content)) := by
  refine List.perm_iff_count.mpr fun content => ?_
  rw [count_repeats, count_repeats, h.count_eq]

def advice (content : List Char) : String × String :=
  ("duplicate_caption", "重複したキャプション: \"" ++ String.ofList content ++ "\"")

theorem check_perm {text : List Char} {lines : List (List Char)}
    (h : lines.Perm (text.splitOn '\n')) :
    ((check (['\n'].intercalate lines).toArray).map fun d => (d.rule, d.message)).Perm
      ((check text.toArray).map fun d => (d.rule, d.message)) := by
  have rewrite (captions : List Caption) :
      (captions.map diagnostic).map (fun d => (d.rule, d.message))
        = (captions.map (·.content)).map advice := by
    simp [diagnostic, advice]
  rw [check, check, rewrite, rewrite]
  apply List.Perm.map
  apply repeats_perm
  rw [content_findAll, content_findAll]
  exact Pattern.taken_perm pattern_avoids 1 h

end Caption

namespace MathDelimiter

theorem dollarPattern_avoids : dollarPattern.avoids '\n' := by
  decide

theorem parenPattern_avoids : parenPattern.avoids '\n' := by
  decide

def advice (parens dollars : Nat) : String × String :=
  ("mixed_math_delimiter", "\\(...\\) と $...$ が混在しています。(" ++ toString parens ++ "回 / "
    ++ toString dollars ++ "回)")

theorem advice_check (text : Array Char) :
    let dollars := (dollarPattern.findAll text).length
    let parens := (parenPattern.findAll text).length
    (check text).map (fun d => (d.rule, d.message))
      = if dollars = 0 ∨ parens = 0 then []
        else .replicate (min dollars parens) (advice parens dollars) := by
  intro dollars parens
  have repeated (findings : List Finding) :
      (findings.map (diagnostic parens dollars)).map (fun d => (d.rule, d.message))
        = .replicate findings.length (advice parens dollars) := by
    rw [List.map_map, ← List.map_const']
    rfl
  simp only [check]
  by_cases hd : dollarPattern.findAll text = []
  case pos => simp [dollars, hd]
  case neg =>
    by_cases hp : parenPattern.findAll text = []
    case pos => simp [parens, hp]
    case neg =>
      simp only [List.isEmpty_iff, Bool.or_eq_true, hd, hp, or_self, if_false, dollars, parens,
        List.length_eq_zero_iff]
      split
      case isTrue hle  => rw [repeated, Nat.min_eq_left hle]
      case isFalse hle => rw [repeated, Nat.min_eq_right (Nat.le_of_not_le hle)]

end MathDelimiter

-- In another order of the lines the advice is the same. The formulas of each style are as many, so
-- the rarer style is the same too.
theorem Document.pass_line_order {text : String} {lines : List (List Char)}
    (h : lines.Perm (text.toList.splitOn '\n')) :
    let other := String.ofList (['\n'].intercalate lines)
    let count (style : Pattern) (text : String) := (style.findAll text.toList.toArray).length
    ((pass other).diagnostics.map fun d => (d.rule, d.message)).Perm
        ((pass text).diagnostics.map fun d => (d.rule, d.message)) ∧
      count MathDelimiter.dollarPattern other = count MathDelimiter.dollarPattern text ∧
      count MathDelimiter.parenPattern other = count MathDelimiter.parenPattern text := by
  intro other count
  have chars : other.toList = ['\n'].intercalate lines := String.toList_ofList
  have dollars := Pattern.length_findAll_perm MathDelimiter.dollarPattern_avoids h
  have parens := Pattern.length_findAll_perm MathDelimiter.parenPattern_avoids h
  rw [← chars] at dollars parens
  refine ⟨?_, dollars, parens⟩
  simp only [pass, check, List.map_append]
  -- The captions are compared as a multiset of contents, the formulas by their two counts alone.
  apply List.Perm.append
  · exact chars ▸ Caption.check_perm h
  · rw [MathDelimiter.advice_check, MathDelimiter.advice_check, dollars, parens]

theorem Document.pass_line_order_unclosed :
    let text := "\\caption\x7bx\x7d$\n$a$\\(b\\)\n\\caption\x7bx\x7d"
    let lines := ["$a$\\(b\\)".toList, "\\caption\x7bx\x7d".toList, "\\caption\x7bx\x7d$".toList]
    lines.Perm (text.toList.splitOn '\n') ∧
      ((pass (String.ofList (['\n'].intercalate lines))).diagnostics.map
        fun d => (d.rule, d.message)).Perm
          [("duplicate_caption", "重複したキャプション: \"x\""),
            ("mixed_math_delimiter", "\\(...\\) と $...$ が混在しています。(1回 / 1回)")] := by
  intro text lines
  have h : lines.Perm (text.toList.splitOn '\n') := by decide +kernel
  have said : (pass text).diagnostics.map (fun d => (d.rule, d.message))
      = [("duplicate_caption", "重複したキャプション: \"x\""),
        ("mixed_math_delimiter", "\\(...\\) と $...$ が混在しています。(1回 / 1回)")] := by
    decide +kernel
  exact ⟨h, said ▸ (Document.pass_line_order h).1⟩

end Proofread
