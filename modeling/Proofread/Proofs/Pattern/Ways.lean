import Proofread.Pattern.Search

namespace Proofread

-- The ways to go on from a place, the preferred one first. A matcher offers its ways to a continuation
-- one after the other; here all of them are at hand, in the same order, and matching is a search of
-- that list.
abbrev Ways := Progress → List Progress

namespace Ways

def times (w : Ways) : Nat → Ways
  | 0, s => [s]
  | n + 1, s => (w s).flatMap (times w n)

def arrange : (isLazy : Bool) → Progress → (further : List Progress) → List Progress
  | false, s, further => further ++ [s]
  | true, s, further  => s :: further

def iterate (w : Ways) (isLazy : Bool) : (fuel : Nat) → (most : Option Nat) → Ways
  | _, some 0, s => [s]
  | 0, _, s => [s]
  | fuel + 1, most, s =>
    arrange isLazy s <| (w s).flatMap fun s' =>
      if s'.pos = s.pos then [s'] else iterate w isLazy fuel (most.map (· - 1)) s'

def possessive (w : Ways) : (fuel : Nat) → (most : Option Nat) → Progress → Progress
  | _, some 0, s => s
  | 0, _, s => s
  | fuel + 1, most, s =>
    match (w s).head? with
    | none => s
    | some s' => if s'.pos = s.pos then s' else possessive w fuel (most.map (· - 1)) s'

def timesFirst? (w : Ways) : Nat → Progress → Option Progress
  | 0, s => some s
  | n + 1, s => (w s).head?.bind (timesFirst? w n)

end Ways

namespace Pattern

def ways (text : Array Char) : Pattern → Ways
  | empty, s => [s]
  | char set, s =>
    match text[s.pos]? with
    | some c => if set.contains c then [{ s with pos := s.pos + 1 }] else []
    | none => []
  | seq p q, s => (p.ways text s).flatMap (q.ways text)
  | alt p q, s => p.ways text s ++ q.ways text s
  | repeated greed least most p, s =>
    let fuel := text.size + 1
    let more := most.map (· - least)
    match greed with
    | .greedy =>
      (Ways.times (p.ways text) least s).flatMap (Ways.iterate (p.ways text) false fuel more)
    | .lazy =>
      (Ways.times (p.ways text) least s).flatMap (Ways.iterate (p.ways text) true fuel more)
    | .possessive =>
      (Ways.timesFirst? (p.ways text) least s).toList.map (Ways.possessive (p.ways text) fuel more)
  | group index p, s => (p.ways text s).map fun s' => s'.setGroup index ⟨s.pos, s'.pos⟩
  | atomic p, s => (p.ways text s).head?.toList
  | look side negated p, s =>
    let found := (side.origin? s.pos).bind fun pos => (p.ways text { s with pos }).head?
    match negated, found with
    | false, some s' => [{ s' with pos := s.pos }]
    | true, none => [s]
    | _, _ => []
  | same index fold, s =>
    match s.group? index with
    | some span =>
      if repeats text s.pos fold span then [{ s with pos := s.pos + (span.stop - span.start) }]
      else []
    | none => []
  | ifGroup index p q, s => if (s.group? index).isSome then p.ways text s else q.ways text s
  | anchor place, s => if place.holds text s.pos then [s] else []

def Matches (p : Pattern) (text : Array Char) (start stop : Nat) : Prop :=
  ∃ s ∈ p.ways text ⟨start, []⟩, s.pos = stop

end Pattern

theorem Ways.findSome?_flatMap {α β : Type} {f : α → List β} {k : β → Option Progress}
    (xs : List α) : (xs.flatMap f).findSome? k = xs.findSome? fun x => (f x).findSome? k := by
  induction xs <;> simp_all [List.findSome?_cons]
  case cons x xs _ => cases (f x).findSome? k <;> rfl

namespace Matcher

def Offers (m : Matcher) (w : Ways) : Prop :=
  ∀ s k, m s k = (w s).findSome? k

namespace Offers

variable {m : Matcher} {w : Ways}

theorem first? (h : m.Offers w) (s : Progress) : m.first? s = (w s).head? := by
  simp only [Matcher.first?, h s some]
  cases w s <;> simp

theorem times (h : m.Offers w) (n : Nat) : (m.times n).Offers (w.times n) := by
  induction n <;> intro s k
  case zero      => simp [Matcher.times, Ways.times]
  case succ n ih => simp only [Matcher.times, Ways.times, Ways.findSome?_flatMap, h s, ih _ k]

theorem further (h : m.Offers w) {next : Matcher} {rest : Ways} (hn : next.Offers rest)
    (s : Progress) (k : Progress → Option Progress) :
    (m s fun s' => if s'.pos = s.pos then k s' else next s' k)
      = ((w s).flatMap fun s' => if s'.pos = s.pos then [s'] else rest s').findSome? k := by
  rw [h s, Ways.findSome?_flatMap]
  congr 1
  ext s' : 1
  split <;> simp [hn s' k]

theorem greedy (h : m.Offers w) :
    (fuel : Nat) → (most : Option Nat) → (m.greedy fuel most).Offers (w.iterate false fuel most)
  | _, some 0, s, k | 0, none, s, k | 0, some (_ + 1), s, k => by
    simp [Matcher.greedy, Ways.iterate]
  | fuel + 1, none, s, k | fuel + 1, some (_ + 1), s, k => by
    simp [Matcher.greedy, Ways.iterate, Ways.arrange, h.further (greedy h fuel _)]

theorem lazy (h : m.Offers w) :
    (fuel : Nat) → (most : Option Nat) → (m.lazy fuel most).Offers (w.iterate true fuel most)
  | _, some 0, s, k | 0, none, s, k | 0, some (_ + 1), s, k => by
    simp [Matcher.lazy, Ways.iterate]
  | fuel + 1, none, s, k | fuel + 1, some (_ + 1), s, k => by
    simp only [Matcher.lazy, Ways.iterate, Ways.arrange, h.further (lazy h fuel _),
      List.findSome?_cons]
    cases k s <;> rfl

theorem possessive (h : m.Offers w) :
    (fuel : Nat) → (most : Option Nat) → (s : Progress) →
      m.possessive fuel most s = w.possessive fuel most s
  | _, some 0, s | 0, none, s | 0, some (_ + 1), s => by
    simp [Matcher.possessive, Ways.possessive]
  | fuel + 1, none, s | fuel + 1, some (_ + 1), s => by
    cases hs : (w s).head? <;>
      simp [Matcher.possessive, Ways.possessive, h.first?, possessive h fuel, hs]

theorem timesFirst? (h : m.Offers w) (n : Nat) (s : Progress) :
    m.timesFirst? n s = w.timesFirst? n s := by
  induction n generalizing s
  case zero      => rfl
  case succ n ih => simp only [Matcher.timesFirst?, Ways.timesFirst?, h.first?, funext ih]

end Offers
end Matcher

namespace Pattern

variable {text : Array Char}

-- The continuation is given the ways in their order, up to the first that it accepts.
theorem run_offers_ways (p : Pattern) : (p.run text).Offers (p.ways text) := by
  -- The induction needs every continuation, as the ways of one part go on with those of the next.
  induction p <;> intro s k
  case empty => simp [run, ways]
  case char set =>
    simp only [run, ways]
    cases text[s.pos]? <;> simp
    split <;> simp
  case seq p q hp hq => simp only [run, ways, hp s, hq _ k, Ways.findSome?_flatMap]
  case alt p q hp hq => simp [run, ways, hp s, hq s]
  case repeated greed least most p hp =>
    cases greed
    case greedy     => simp only [run, ways, hp.times _ s, hp.greedy _ _ _ k, Ways.findSome?_flatMap]
    case lazy       => simp only [run, ways, hp.times _ s, hp.lazy _ _ _ k, Ways.findSome?_flatMap]
    case possessive =>
      simp only [run, ways, hp.timesFirst?, hp.possessive]
      cases Ways.timesFirst? (p.ways text) least s <;> simp
  case group index p hp =>
    simp only [run, ways, hp s, List.findSome?_map]
    rfl
  case atomic p hp =>
    simp only [run, ways, hp.first?]
    cases (p.ways text s).head? <;> simp
  case look side negated p hp =>
    simp only [run, ways, hp.first?]
    generalize (side.origin? s.pos).bind _ = found
    cases negated <;> cases found <;> simp
  case same index fold =>
    simp only [run, ways]
    cases s.group? index <;> simp
    split <;> simp
  case ifGroup index p q hp hq =>
    simp only [run, ways]
    split <;> simp [hp s k, hq s k]
  case anchor place =>
    simp only [run, ways]
    split <;> simp

theorem matchAt?_eq (p : Pattern) (pos : Nat) (accept : Nat → Bool) :
    p.matchAt? text pos accept
      = ((p.ways text ⟨pos, []⟩).find? (accept ·.pos)).map fun s => ⟨⟨pos, s.pos⟩, s.groups⟩ := by
  rw [matchAt?, p.run_offers_ways, ← List.findSome?_guard]
  rfl

theorem matches_iff_matchAt? {p : Pattern} {start stop : Nat} :
    p.Matches text start stop ↔ (p.matchAt? text start (· == stop)).isSome := by
  simp [Matches, matchAt?_eq]

end Pattern
end Proofread
