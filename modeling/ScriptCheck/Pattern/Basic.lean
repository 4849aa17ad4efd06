import ScriptCheck.Pattern.Reader

/-!
# Patterns

`Pattern.isValid` decides whether the body of a regular expression literal is a pattern. Groups
nest, so the readers for what stands within brackets are handed down: `nested depth` reads patterns
whose brackets nest less deeply than `depth`.
-/

namespace ScriptCheck.Pattern

open ScriptCheck.Text

/-- Readers for what stands within brackets. Both are told whether blanks and comments are
skipped. -/
structure Nested where
  alternatives : (verbose : Bool) → Read Width
  sequence : (verbose : Bool) → Read Width

/-- A sequence as far as it was read: the width of all items but the last, and the last one. -/
structure Sequence where
  before : Width := .zero
  last : Option (ItemKind × Width) := none

namespace Sequence

/-- The width of a sequence. -/
def width (sequence : Sequence) : Width :=
  match sequence.last with
  | none => sequence.before
  | some (_, width) => sequence.before.append width

/-- A sequence with one more item. -/
def push (sequence : Sequence) (kind : ItemKind) (width : Width) : Sequence :=
  ⟨sequence.width, some (kind, width)⟩

end Sequence

/-- The greatest width of a look behind, that of 31 bits. -/
def lookBehindLimit : Nat := 2147483647

/-- Repeat the last item of a sequence. An anchor cannot be repeated, and neither can a repetition.
A mark behind the counts makes the repetition lazy or possessive. -/
def repeatLast (sequence : Sequence) (least greatest : Nat) : Read Sequence := do
  match sequence.last with
  | some (.other, width) =>
      modify fun reader => { reader with repeats := true }
      if !(← accept '?') then discard (accept '+')
      return { sequence with last := some (.repetition, width.times least greatest) }
  | _ => refuse

/-- Read counts in braces behind the opening one. Braces that hold no counts are plain
characters. -/
def readCounts : Read (Option (Nat × Nat)) := do
  let reader ← get
  if (← next) = some (.sign '\x7d') then return none
  let low ← takeAllDigits
  let high ← if ← accept ',' then takeAllDigits else pure low
  if !(← accept '\x7d') then
    set reader
    return none
  if !reader.limits.Allows low.length ∨ !reader.limits.Allows high.length then refuse
  let least := readDigits 10 low
  let greatest := if high.isEmpty then unlimited else readDigits 10 high
  if unlimited ≤ least ∨ (!high.isEmpty ∧ unlimited ≤ greatest) ∨ greatest < least then refuse
  return some (least, greatest)

/-- Read the group that a condition asks for. A number may name a group that comes later. -/
def readCondition : Read Nat := do
  let codes ← match plainCodes? (← takeUntil ')') with
    | some codes => pure codes
    | none => refuse
  let group ←
    if isGroupName codes then groupNamed codes
    else match integer? (← get).limits (codes.map characterOf) with
      | none => refuse
      | some number =>
          let group := number.toNat
          if group = 0 ∨ groupLimit ≤ group then refuse
          modify fun reader =>
            { reader with greatestCondition := max reader.greatestCondition group }
          pure group
  checkLookBehind group
  return group

/-- Read a look around behind its mark. Behind the cursor, the width has to be fixed. -/
def readLookAround (inner : Nested) (verbose behind : Bool) : Read Unit := do
  let outer := (← get).groupsBefore
  if behind ∧ outer.isNone then
    modify fun reader => { reader with groupsBefore := some reader.groups.size }
  let width ← inner.alternatives verbose
  if behind then modify fun reader => { reader with groupsBefore := outer }
  expect ')'
  if behind ∧ (width.least ≠ width.greatest ∨ lookBehindLimit < width.least) then refuse

/-- Read a condition with its one or two branches, behind the second bracket. -/
def readConditional (inner : Nested) (verbose : Bool) : Read Width := do
  discard readCondition
  let yes ← inner.sequence verbose
  let width ←
    if ← accept '|' then
      let no ← inner.sequence verbose
      pure (yes.either no)
    else pure ⟨0, yes.greatest⟩
  expect ')'
  return width

/-- Read a group with a number, behind its brackets and its name. -/
def readCapture (inner : Nested) (verbose : Bool) (name : Option (List Nat)) : Read Width := do
  let group ← openGroup name
  let width ← inner.alternatives verbose
  expect ')'
  closeGroup group width
  return width

/-- Skip a comment in brackets. -/
def skipComment : Read Unit := do
  let reader ← get
  let behind := reader.rest.dropWhile (· != Token.sign ')')
  if behind.isEmpty then refuse
  set { reader with rest := behind.tail }

/-- Read what stands in brackets that open with a question mark. It may add an item, or change
whether blanks are skipped. -/
def readExtension (inner : Nested) (first verbose : Bool) (sequence : Sequence) :
    Read (Sequence × Bool) := do
  let mark := (← demand).character
  if mark = 'P' then
    if ← accept '<' then
      let name ← groupName '>'
      return (sequence.push .other (← readCapture inner verbose (some name)), verbose)
    expect '='
    let group ← groupNamed (← groupName ')')
    let width ← closedGroup group
    checkLookBehind group
    return (sequence.push .other width, verbose)
  if mark = '#' then
    skipComment
    return (sequence, verbose)
  if mark = '=' ∨ mark = '!' then
    readLookAround inner verbose false
    return (sequence.push .other .zero, verbose)
  if mark = '<' then
    let mark := (← demand).character
    if mark ≠ '=' ∧ mark ≠ '!' then refuse
    readLookAround inner verbose true
    return (sequence.push .other .zero, verbose)
  if mark = '(' then
    return (sequence.push .other (← readConditional inner verbose), verbose)
  if mark = ':' ∨ mark = '>' then
    let width ← inner.alternatives verbose
    expect ')'
    return (sequence.push .other width, verbose)
  if "-aimstux".toList.contains mark then
    match ← readFlagScope mark with
    | .everywhere flags =>
        if !first ∨ sequence.last.isSome then refuse
        modify fun reader =>
          { reader with
            verbose := reader.verbose || flags.verbose
            ascii := reader.ascii || flags.ascii
            unicode := reader.unicode || flags.unicode
            template := reader.template || flags.template }
        return (sequence, (← get).verbose)
    | .within on off =>
        let width ← inner.alternatives ((verbose || on.verbose) && !off.verbose)
        expect ')'
        return (sequence.push .other width, verbose)
  refuse

/-- The blanks that verbose patterns may hold. -/
def isPatternBlank (token : Token) : Bool :=
  " \t\n\r\x0b\x0c".toList.any fun character => token == .sign character

/-- Read the items of a sequence up to a bar, a closing bracket or the end. `first` says that
nothing stands before the sequence. -/
def readItems (inner : Nested) (first : Bool) :
    (turns : Nat) → (verbose : Bool) → Sequence → Read Width
  | 0, _, _ => refuse
  | turns + 1, verbose, sequence => do
      match ← next with
      | none => return sequence.width
      | some token =>
          if token = .sign '|' ∨ token = .sign ')' then return sequence.width
          discard take
          let add (kind : ItemKind) (width : Width) : Read Width :=
            readItems inner first turns verbose (sequence.push kind width)
          let again (least greatest : Nat) : Read Width := do
            readItems inner first turns verbose (← repeatLast sequence least greatest)
          match token with
          | .escaped code =>
              let (kind, width) ← readEscape code
              add kind width
          | .plain _ =>
              if verbose ∧ isPatternBlank token then readItems inner first turns verbose sequence
              else if verbose ∧ token = .sign '#' then
                modify fun reader =>
                  { reader with rest := (reader.rest.dropWhile (· != .sign '\n')).tail }
                readItems inner first turns verbose sequence
              else if token = .sign '[' then
                discard (accept '^')
                readClass ((← get).rest.length + 1) true
                add .other .one
              else if token = .sign '*' then again 0 unlimited
              else if token = .sign '+' then again 1 unlimited
              else if token = .sign '?' then again 0 1
              else if token = .sign '\x7b' then
                match ← readCounts with
                | none => add .other .one
                | some (least, greatest) => again least greatest
              else if token = .sign '(' then
                if ← accept '?' then
                  let (sequence, verbose) ← readExtension inner first verbose sequence
                  readItems inner first turns verbose sequence
                else add .other (← readCapture inner verbose none)
              else if token = .sign '^' ∨ token = .sign '$' then add .anchor .zero
              else add .other .one

/-- Read a sequence. -/
def readSequence (inner : Nested) (first verbose : Bool) : Read Width := do
  readItems inner first ((← get).rest.length + 1) verbose {}

/-- Read the alternatives behind the first one. -/
def readBranches (sequence : Read Width) : (turns : Nat) → Width → Read Width
  | 0, width => return width
  | turns + 1, width => do
      if ← accept '|' then
        let branch ← sequence
        readBranches sequence turns (width.either branch)
      else return width

/-- Read alternatives within brackets. -/
def readAlternatives (inner : Nested) (verbose : Bool) : Read Width := do
  let width ← readSequence inner false verbose
  readBranches (readSequence inner false verbose) (← get).rest.length width

/-- Readers for brackets that nest less deeply than `depth`. -/
def nested : (depth : Nat) → Nested
  | 0 => ⟨fun _ => refuse, fun _ => refuse⟩
  | depth + 1 =>
      let inner := nested depth
      ⟨readAlternatives inner, readSequence inner false⟩

/-- Read a whole pattern. Flags at its start hold for all of it. -/
def readPattern : Read Unit := do
  let inner := nested (← get).limits.patternDepth
  let width ← readSequence inner true false
  let branch : Read Width := do readSequence inner false (← get).verbose
  discard (readBranches branch (← get).rest.length width)
  let reader ← get
  if !reader.rest.isEmpty then refuse
  if reader.groups.size < reader.greatestCondition then refuse
  if (reader.ascii ∧ reader.unicode) ∨ (reader.template ∧ reader.repeats) then refuse

/-- Whether code points are a pattern. -/
def isValid (limits : Limits) (codes : List Nat) : Bool :=
  match tokens? codes with
  | none => false
  | some tokens => (readPattern { limits, rest := tokens }).isSome

end ScriptCheck.Pattern
