import Proofread.Pattern.Bracket
import Proofread.Pattern.Draft
import Proofread.Unicode.Identifier

namespace Proofread.Pattern

namespace Draft

def checkBehind (draft : Draft) (index : Nat) : Reader Unit :=
  match draft.behind with
  | none => return
  | some count =>
    if !draft.isClosed index then Reader.fail .openGroup 0
    else if count < index then Reader.fail .groupInLookBehind 0
    else return

def pushPoint (draft : Draft) (point : Nat) : Draft :=
  draft.push (.free (.char (.single point draft.frame.flags.fold)))

-- The group of which the text is to come again. `back` leads to the place of the reference.
def pushSame (draft : Draft) (index back : Nat) : Reader Draft := do
  if draft.isClosed index then
    draft.checkBehind index
    return draft.push (.free (.same index draft.frame.flags.fold))
  else
    Reader.fail .openGroup back

-- A number after a backslash names a group, unless it has three octal digits.
def numberedEscape (draft : Draft) (c : Char) : Reader Draft := do
  let second ← Reader.takeWhile isAsciiDigit 1
  let third ←
    if isOctalDigit c && !second.isEmpty && second.all isOctalDigit then
      Reader.takeWhile isOctalDigit 1
    else
      pure []
  let digits := c :: second
  if !third.isEmpty then
    return draft.pushPoint (← Escape.octal (digits ++ third))
  else
    let index := valueIn 10 digits
    if draft.hasGroup index then draft.pushSame index (digits.length + 1)
    else Reader.fail (.noSuchGroup index) digits.length

def escape (draft : Draft) (c : Char) : Reader Draft :=
  let flags := draft.frame.flags
  match Escape.anchor? flags.ascii c, Escape.category? flags.ascii c with
  | some place, _ => return draft.push ⟨.anchor place, .anchor⟩
  | none, some named => return draft.push (.free (.char (.ofCategory named)))
  | none, none =>
    if c = '0' then do
      return draft.pushPoint (valueIn 8 (← Reader.takeWhile isOctalDigit 2))
    else if isAsciiDigit c then
      draft.numberedEscape c
    else
      draft.pushPoint <$> Escape.readPoint c (Escape.bad .badEscape [c])

def count (digits : List Char) : Reader Nat :=
  if Numeral.digitLimit < digits.length then
    Reader.refuse (.countTooLong digits.length)
  else
    let n := valueIn 10 digits
    if n < Width.limit then return n else Reader.refuse .countTooLarge

-- The bounds after an opening brace. Anything else makes the brace an ordinary character, and the
-- reader stays directly behind it.
def bounds : Reader (Option (Nat × Option Nat)) := do
  let before ← get
  if before.tokens.head? = some (.char '\x7d') then
    return none
  let low ← Reader.takeWhile isAsciiDigit (← Reader.left)
  let high ← if ← Reader.eat ',' then Reader.takeWhile isAsciiDigit (← Reader.left) else pure low
  if ← Reader.eat '\x7d' then
    let least ← if low.isEmpty then pure 0 else count low
    if high.isEmpty then
      return some (least, none)
    else
      let most ← count high
      if least ≤ most then return some (least, some most)
      else Reader.failAt .leastAboveMost before.pos
  else
    set before
    return none

def repeatLast (draft : Draft) (here least : Nat) (most : Option Nat) : Reader Draft := do
  match draft.frame.parts with
  | ⟨p, .free⟩ :: rest =>
    let greed ←
      if ← Reader.eat '?' then pure Greed.lazy
      else if ← Reader.eat '+' then pure Greed.possessive
      else pure Greed.greedy
    let part := ⟨.repeated greed least most p, .repetition⟩
    return { draft with frame := { draft.frame with parts := part :: rest } }
  | ⟨_, .repetition⟩ :: _ => Reader.failAt .repeatedRepeat (here - 1)
  | _ => Reader.failAt .nothingToRepeat (here - 1)

def isLetter : Token → Bool
  | .char c => Unicode.isLetter c.toNat
  | _ => false

def flag? : Token → Option Flag
  | .char c => Flag.ofChar? c
  | _ => none

def notFlag {α : Type} (token : Token) (fault : Fault) : Reader α :=
  Reader.fail (if isLetter token then .unknownFlag else fault) token.width

def flagsOn : (fuel : Nat) → List Flag → Flag → Reader (List Flag × Token)
  | 0, _, _ => Reader.fail .flagsUnended 0
  | fuel + 1, before, flag => do
    let flags := flag :: before
    if flag = .locale then
      Reader.fail .localeFlag 0
    else if flag.choosesRepertoire && before.any fun f => f.choosesRepertoire && f != flag then
      Reader.fail .repertoireConflict 0
    else
      match ← Reader.next with
      | none => Reader.fail .flagsUnended 0
      | some token =>
        if token = .char ')' ∨ token = .char ':' ∨ token = .char '-' then
          return (flags, token)
        else
          match flag? token with
          | some flag => flagsOn fuel flags flag
          | none => notFlag token .flagsUnended

def flagsOff : (fuel : Nat) → List Flag → Flag → Reader (List Flag)
  | 0, _, _ => Reader.fail .colonMissing 0
  | fuel + 1, before, flag => do
    if flag.choosesRepertoire then
      Reader.fail .repertoireOff 0
    else
      match ← Reader.next with
      | none => Reader.fail .colonMissing 0
      | some token =>
        if token = .char ':' then
          return flag :: before
        else
          match flag? token with
          | some next => flagsOff fuel (flag :: before) next
          | none => notFlag token .colonMissing

def firstFlagOff : Reader (List Flag) := do
  match ← Reader.next with
  | none => Reader.fail .flagMissing 0
  | some token =>
    match flag? token with
    | some flag => flagsOff ((← Reader.left) + 1) [] flag
    | none => notFlag token .flagMissing

def openFlagged (draft : Draft) (start : Nat) (on off : List Flag) : Reader Draft :=
  if off.contains .template then Reader.fail .globalFlagOff 1
  else if on.any off.contains then Reader.fail .flagOnAndOff 1
  else return draft.enter .plain start (draft.frame.flags.update on.reverse off.reverse)

def setFlags (draft : Draft) (start : Nat) (on : List Flag) : Reader Draft :=
  let frame := draft.frame
  if draft.outer.isEmpty && frame.alternatives.isEmpty && frame.parts.isEmpty then
    return { draft with
      frame := { frame with flags := frame.flags.update on.reverse [] }
      repertoires := on.filter (·.choosesRepertoire) ++ draft.repertoires }
  else
    Reader.failAt .lateFlags start

def flagged (draft : Draft) (start : Nat) (flag : Flag) : Reader Draft := do
  let (on, token) ← flagsOn ((← Reader.left) + 1) [] flag
  if token = .char ')' then
    draft.setFlags start on
  else if on.contains .template then
    Reader.fail .globalFlagOn 1
  else if token = .char '-' then
    draft.openFlagged start on (← firstFlagOff)
  else
    draft.openFlagged start on []

def openCapture (draft : Draft) (start : Nat) (name? : Option String) : Reader Draft :=
  let index := draft.groupCount + 1
  let opened := { draft with widths := draft.widths ++ [none] }
  let flags := draft.frame.flags
  match name? with
  | none => return opened.enter (.capture index) start flags
  | some name =>
    match draft.names.lookup name with
    | some taken => Reader.fail (.nameTaken name index taken) (name.length + 1)
    | none =>
      return { opened with names := (name, index) :: draft.names }.enter (.capture index) start flags

def checkName (name : String) : Reader Unit :=
  if Unicode.isName name.toList then return else Reader.fail (.badName name) (name.length + 1)

def groupNamed (draft : Draft) (name : String) : Reader Nat :=
  match draft.names.lookup name with
  | some index => return index
  | none => Reader.fail (.unknownName name) (name.length + 1)

def groupLimit : Nat := 2147483647

def conditionGroup (draft : Draft) (name : String) : Reader (Draft × Nat) := do
  if Unicode.isName name.toList then
    return (draft, ← draft.groupNamed name)
  else
    let back := name.length + 1
    match Numeral.read? name.toList with
    | none | some (.negSucc _) => Reader.fail (.badName name) back
    | some (.ofNat 0) => Reader.fail .groupZero back
    | some (.ofNat (i + 1)) =>
      let index := i + 1
      if groupLimit ≤ index then
        Reader.fail (.noSuchGroup index) back
      else if (draft.mentioned.lookup index).isSome then
        return (draft, index)
      else
        let mention := (index, (← Reader.position) - back)
        return ({ draft with mentioned := draft.mentioned ++ [mention] }, index)

def openLook (draft : Draft) (start : Nat) (isBehind negated : Bool) : Draft :=
  let flags := draft.frame.flags
  if isBehind then
    let inner := { draft with behind := some (draft.behind.getD draft.groupCount) }
    inner.enter (.behind negated draft.behind) start flags
  else
    draft.enter (.ahead negated) start flags

def skipComment (start : Nat) : (fuel : Nat) → Reader Unit
  | 0 => Reader.failAt .unterminatedComment start
  | fuel + 1 => do
    match ← Reader.next with
    | none => Reader.failAt .unterminatedComment start
    | some token => if token = .char ')' then return else skipComment start fuel

def namedGroup (draft : Draft) (start : Nat) : Reader Draft := do
  if ← Reader.eat '<' then
    let name ← Reader.takeUntil '>' "group name"
    checkName name
    draft.openCapture start (some name)
  else if ← Reader.eat '=' then
    let name ← Reader.takeUntil ')' "group name"
    checkName name
    draft.pushSame (← draft.groupNamed name) (name.length + 1)
  else
    match ← Reader.next with
    | none => Reader.fail .endOfPattern 0
    | some token => Reader.fail (.unknownExtension ("P" ++ token.text)) (token.width + 2)

def lookBehind (draft : Draft) (start : Nat) : Reader Draft := do
  match ← Reader.next with
  | none => Reader.fail .endOfPattern 0
  | some token =>
    if token = .char '=' then return draft.openLook start true false
    else if token = .char '!' then return draft.openLook start true true
    else Reader.fail (.unknownExtension ("<" ++ token.text)) (token.width + 2)

def extension (draft : Draft) (start : Nat) : Reader Draft := do
  match ← Reader.next with
  | none => Reader.fail .endOfPattern 0
  | some token =>
    match token with
    | .char 'P' => draft.namedGroup start
    | .char ':' => return draft.enter .plain start draft.frame.flags
    | .char '#' =>
      skipComment start ((← Reader.left) + 1)
      return draft
    | .char '=' => return draft.openLook start false false
    | .char '!' => return draft.openLook start false true
    | .char '<' => draft.lookBehind start
    | .char '(' =>
      let (draft, index) ← draft.conditionGroup (← Reader.takeUntil ')' "group name")
      draft.checkBehind index
      return draft.enter (.ifGroup index) start draft.frame.flags
    | .char '>' => return draft.enter .atomic start draft.frame.flags
    | .char '-' => draft.openFlagged start [] (← firstFlagOff)
    | _ =>
      match flag? token with
      | some flag => draft.flagged start flag
      | none => Reader.fail (.unknownExtension token.text) token.width.succ

def isBlank (c : Char) : Bool :=
  c == ' ' || (decide ('\t' ≤ c) && decide (c ≤ '\r'))

def skipLine : (fuel : Nat) → Reader Unit
  | 0 => return
  | fuel + 1 => do
    match ← Reader.next with
    | none => return
    | some token => if token = .char '\n' then return else skipLine fuel

def character (draft : Draft) (c : Char) : Reader Draft := do
  let flags := draft.frame.flags
  let here ← Reader.position
  match c with
  | '[' => return draft.push (.free (.char (← CharSet.read flags (here - 1))))
  | '?' => draft.repeatLast here 0 (some 1)
  | '*' => draft.repeatLast here 0 none
  | '+' => draft.repeatLast here 1 none
  | '\x7b' =>
    match ← bounds with
    | some (least, most) => draft.repeatLast here least most
    | none => return draft.pushPoint c.toNat
  | '.' => return draft.push (.free (.char (if flags.dotAll then .any else .notSingle 0xA)))
  | '^' =>
    return draft.push ⟨.anchor (if flags.multiline then .lineStart else .textStart), .anchor⟩
  | '$' =>
    return draft.push ⟨.anchor (if flags.multiline then .lineEnd else .lastLineEnd), .anchor⟩
  | '(' => if ← Reader.eat '?' then draft.extension (here - 1) else draft.openCapture (here - 1) none
  | _ => return draft.pushPoint c.toNat

def part (draft : Draft) : Token → Reader Draft
  | .escape c => draft.escape c
  | .dangling => return draft
  | .char c => do
    if draft.frame.flags.verbose && isBlank c then
      return draft
    else if draft.frame.flags.verbose && c == '#' then
      skipLine (← Reader.left)
      return draft
    else
      draft.character c

-- Reads until nothing is left, or up to a parenthesis that closes nothing. Each step takes a token,
-- so `fuel` need not exceed their number.
def fill : (fuel : Nat) → Draft → Reader Draft
  | 0, draft => return draft
  | fuel + 1, draft => do
    match ← Reader.peek with
    | none => return draft
    | some (.char ')') =>
      if draft.outer.isEmpty then
        return draft
      else
        let _ ← Reader.next
        fill fuel draft.close
    | some (.char '|') =>
      if draft.frame.isFull then
        Reader.fail .thirdBranch 0
      else
        let _ ← Reader.next
        fill fuel draft.divide
    | some token =>
      let _ ← Reader.next
      fill fuel (← draft.part token)

def finish (draft : Draft) : Reader Pattern := do
  if !draft.outer.isEmpty then
    Reader.failAt .unterminatedGroup draft.frame.start
  else if draft.repertoires.contains .ascii && draft.repertoires.contains .unicode then
    Reader.refuse .conflictingFlags
  else if (← Reader.peek).isSome then
    Reader.fail .unbalanced 0
  else
    match draft.mentioned.find? fun mention => !draft.hasGroup mention.1 with
    | some (index, offset) => Reader.failAt (.noSuchGroup index) offset
    | none =>
      if draft.unfixed then Reader.refuse .variableLookBehind else return draft.frame.pattern

end Draft

def ofString? (text : String) : Except Error Pattern :=
  match Token.ofText text.toList with
  | .dangling :: _ => .error (.malformed .danglingEscape 0)
  | tokens =>
    (do (← Draft.fill tokens.length .initial).finish : Reader Pattern).run' ⟨tokens, 0⟩

end Proofread.Pattern
