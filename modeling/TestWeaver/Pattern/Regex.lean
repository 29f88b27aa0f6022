import TestWeaver.Pattern.Class

/-!
Regular expressions in the two dialects that standard programs read.

`ends` computes where matches from given places can end; of all matches the one counts that
begins first, and of those the longest. `groups` then finds what the parts of that match are,
earlier parts as long as they can be.
-/

namespace TestWeaver.Pattern

inductive Regex where
  | empty
  | char (c : Char)
  | any
  | oneOf (negated : Bool) (members : List Member)
  | start
  | stop
  | edge (begins ends : Bool)
  | inside
  | seq (a b : Regex)
  | alt (a b : Regex)
  | star (r : Regex)
  | group (n : Nat) (r : Regex)
  | back (n : Nat)
  | bufferStart
  | bufferStop
deriving Repr, Inhabited

namespace Regex

/-- How letters and line breaks are taken. -/
structure Mode where
  foldCase : Bool := false
  multiline : Bool := false
deriving DecidableEq, Repr

def isWordChar (c : Char) : Bool := c.isAlphanum || c = '_'

def sameChar (m : Mode) (a b : Char) : Bool := a = b || (m.foldCase && a.toLower = b.toLower)

def setHas (m : Mode) (ms : List Member) (c : Char) : Bool :=
  ms.any fun x => x.has c || (m.foldCase && (x.has c.toLower || x.has c.toUpper))

/-- Where the character at a place ends. One of several octets counts as one. -/
def after (s : Array Char) (i : Nat) : Nat :=
  match s[i]? with
  | none => i
  | some c =>
    if c.toNat < 0xC0 then i + 1
    else
      let more := (List.range 3).takeWhile fun k =>
        (s[i + 1 + k]?.map Char.toNat).any fun n => 0x80 ≤ n && n < 0xC0
      i + 1 + more.length

def isStart (m : Mode) (s : Array Char) (i : Nat) : Bool :=
  i = 0 || (m.multiline && s[i - 1]? = some '\n')

def isStop (m : Mode) (s : Array Char) (i : Nat) : Bool :=
  i = s.size || (m.multiline && s[i]? = some '\n')

def wordBefore (s : Array Char) (i : Nat) : Bool := i ≠ 0 && s[i - 1]?.any isWordChar

def wordAfter (s : Array Char) (i : Nat) : Bool := s[i]?.any isWordChar

/-- Whether a place is an edge of a word of the kinds that are asked for. -/
def isEdge (s : Array Char) (begins ends : Bool) (i : Nat) : Bool :=
  (begins && !wordBefore s i && wordAfter s i) || (ends && wordBefore s i && !wordAfter s i)

def oneStep (m : Mode) (s : Array Char) (i : Nat) : Regex → List Nat
  | char c => if s[i]?.any (sameChar m c) then [i + 1] else []
  | any => if i < s.size then [after s i] else []
  | oneOf negated ms =>
    match s[i]? with
    | some c => if setHas m ms c ≠ negated then [if negated then after s i else i + 1] else []
    | none => []
  | start => if isStart m s i then [i] else []
  | stop => if isStop m s i then [i] else []
  | edge b e => if isEdge s b e i then [i] else []
  | inside => if isEdge s true true i then [] else [i]
  | bufferStart => if i = 0 then [i] else []
  | bufferStop => if i = s.size then [i] else []
  | _ => [i]

def union (a b : List Nat) : List Nat := b.foldl (fun l i => if l.contains i then l else l ++ [i]) a

/-- All places that are reached by a step repeated any number of times. -/
def closure (f : List Nat → List Nat) : Nat → List Nat → List Nat → List Nat
  | 0, seen, _ => seen
  | n + 1, seen, new =>
    let next := (f new).filter fun i => !seen.contains i
    if next.isEmpty then seen else closure f n (union seen next) next

/-- Where matches can end that begin at one of some places. -/
def ends (m : Mode) (s : Array Char) : Regex → List Nat → List Nat
  | empty, is => is
  | seq a b, is => ends m s b (ends m s a is)
  | alt a b, is => union (ends m s a is) (ends m s b is)
  | star r, is => closure (ends m s r) (s.size + 1) is is
  | group _ r, is => ends m s r is
  | back _, is => is
  | r, is => is.foldl (fun l i => union l (oneStep m s i r)) []

def hasBack : Regex → Bool
  | back _ => true
  | seq a b | alt a b => hasBack a || hasBack b
  | star r | group _ r => hasBack r
  | _ => false

abbrev Groups := List (Nat × Nat × Nat)

/-- Looks for a match from a place that goes on as `k` wants. -/
def find (m : Mode) (s : Array Char) : Nat → Regex → Nat → Groups →
    (Nat → Groups → Option (Nat × Groups)) → Option (Nat × Groups)
  | 0, _, _, _, _ => none
  | n + 1, r, i, g, k =>
    match r with
    | empty => k i g
    | seq a b => find m s n a i g fun j g => find m s n b j g k
    | alt a b =>
      match find m s n a i g k with
      | some x => some x
      | none => find m s n b i g k
    | star r =>
      match find m s n r i g fun j g => if j = i then none else find m s n (star r) j g k with
      | some x => some x
      | none => k i g
    | group x r => find m s n r i g fun j g => k j ((x, i, j) :: g.filter (·.1 ≠ x))
    | back x =>
      match g.lookup x with
      | none => none
      | some (a, b) =>
        let same := (List.range (b - a)).all fun d =>
          match s[a + d]?, s[i + d]? with
          | some c, some e => sameChar m c e
          | _, _ => false
        if same then k (i + (b - a)) g else none
    | r => (oneStep m s i r).findSome? fun j => k j g

/-- How deep a search may go. -/
def depthFor (s : Array Char) : Nat := 2000 + 200 * s.size

/-- What a match is: where it begins and ends, and its groups. -/
structure Match where
  first : Nat
  last : Nat
  groups : Groups
deriving Repr, Inhabited

/-- The longest match that begins at a place. -/
def matchAt (m : Mode) (r : Regex) (s : Array Char) (i : Nat) : Option Match :=
  let found := fun (j : Nat) =>
    (find m s (depthFor s) r i [] fun k g => if k = j then some (k, g) else none).map fun x =>
      ({ first := i, last := x.1, groups := x.2 } : Match)
  if hasBack r then
    ((List.range (s.size + 1 - i)).map (s.size - ·)).findSome? found
  else
    match ends m s r [i] with
    | [] => none
    | js =>
      let j := js.foldl max i
      (found j).or (some { first := i, last := j, groups := [] })

/-- The first match from a place on. -/
def searchFrom (m : Mode) (r : Regex) (s : Array Char) (i : Nat) : Option Match :=
  ((List.range (s.size + 1 - i)).map (i + ·)).findSome? (matchAt m r s)

def search (m : Mode) (r : Regex) (s : Text) : Option Match := searchFrom m r s.toArray 0

def part (s : Array Char) (a b : Nat) : Text := (s.extract a b).toList

/-- The text of a group; nothing if the group has no part in the match. -/
def Match.group? (x : Match) (s : Array Char) (n : Nat) : Option Text :=
  if n = 0 then some (part s x.first x.last)
  else (x.groups.lookup n).map fun (a, b) => part s a b

/-! ### reading -/

inductive Fault where
  | bracket
  | paren
  | closing
  | brace
  | content
  | backReference
  | slash
  | preceding
  | rangeEnd
  | className
deriving DecidableEq, Repr

def Fault.message : Fault → Text
  | bracket => "Unmatched [, [^, [:, [., or [=".toList
  | paren => "Unmatched ( or \\(".toList
  | closing => "Unmatched ) or \\)".toList
  | brace => "Unmatched \x7b or \\\x7b".toList
  | content => "Invalid content of \\\x7b\\\x7d".toList
  | backReference => "Invalid back reference".toList
  | slash => "Trailing backslash".toList
  | preceding => "Invalid preceding regular expression".toList
  | rangeEnd => "Invalid range end".toList
  | className => "Invalid character class name".toList

/-- The members of a class up to its closing bracket, which may come first as a member. -/
def readMembers : Nat → Bool → Text → Except Fault (List Member × Text)
  | 0, _, _ => .error .bracket
  | _ + 1, _, [] => .error .bracket
  | n + 1, isFirst, c :: s => do
    if c = ']' && !isFirst then return ([], s)
    else if c = '[' && s.head? = some ':' then
      match Text.cut? [':', ']'] (s.drop 1) with
      | none => throw .bracket
      | some (name, rest) =>
        if (kind? name).isNone then throw .className
        let (ms, rest) ← readMembers n false rest
        return (.named name :: ms, rest)
    else
      let (c, s) : Char × Text :=
        if c = '[' && (s.head? = some '.' || s.head? = some '=') then
          match s with
          | _ :: x :: _ :: ']' :: rest => (x, rest)
          | _ => (c, s)
        else (c, s)
      match s with
      | '-' :: d :: rest =>
        if d = ']' then
          let (ms, rest) ← readMembers n false s
          return (.one c :: ms, rest)
        else
          if d < c then throw .rangeEnd
          let (ms, rest) ← readMembers n false rest
          return (.range c d :: ms, rest)
      | _ =>
        let (ms, rest) ← readMembers n false s
        return (.one c :: ms, rest)

def readSet (s : Text) : Except Fault (Regex × Text) :=
  match s with
  | '^' :: r => (readMembers (s.length + 1) true r).map fun (ms, rest) => (.oneOf true ms, rest)
  | _ => (readMembers (s.length + 1) true s).map fun (ms, rest) => (.oneOf false ms, rest)

def wordMembers : List Member := [.named "alnum".toList, .one '_']

/-- What a letter behind a backslash means in both dialects. -/
def escaped? (c : Char) : Option Regex :=
  match c with
  | 'w' => some (.oneOf false wordMembers)
  | 'W' => some (.oneOf true wordMembers)
  | 's' => some (.oneOf false [.named "space".toList])
  | 'S' => some (.oneOf true [.named "space".toList])
  | 'b' => some (.edge true true)
  | 'B' => some .inside
  | '<' => some (.edge true false)
  | '>' => some (.edge false true)
  | '\'' => some .bufferStop
  | 'n' => some (.char '\n')
  | _ => if c = '\x60' then some .bufferStart else none

def power (r : Regex) : Nat → Regex
  | 0 => .empty
  | n + 1 => .seq r (power r n)

def optional (r : Regex) : Nat → Regex
  | 0 => .empty
  | n + 1 => .alt (.seq r (optional r n)) .empty

/-- A repetition from a least number on, up to a greatest one if there is one. -/
def repeated (r : Regex) (least : Nat) : Option Nat → Regex
  | none => .seq (power r least) (.star r)
  | some most => .seq (power r least) (optional r (most - least))

/-- The numbers of a repetition, up to what closes it. -/
def readCounts (close : Text) (s : Text) : Except Fault (Nat × Option Nat × Text) :=
  let number := fun (t : Text) => t.foldl (fun n c => 10 * n + (c.toNat - 48)) 0
  let a := s.takeWhile Char.isDigit
  let r := s.drop a.length
  match Text.after? close r with
  | some rest => if a = [] then .error .content else .ok (number a, some (number a), rest)
  | none =>
    match r with
    | ',' :: r =>
      let b := r.takeWhile Char.isDigit
      match Text.after? close (r.drop b.length) with
      | some rest =>
        if b = [] then .ok (number a, none, rest)
        else if number b < number a then .error .content
        else .ok (number a, some (number b), rest)
      | none => .error (if r.drop b.length = [] then .brace else .content)
    | [] => .error .brace
    | _ => .error .content

/-- A token of an expression, in either dialect. -/
inductive Token where
  | one (r : Regex)
  | star
  | plus
  | question
  | counts (least : Nat) (most : Option Nat)
  | opening
  | closing
  | bar
  | ending

/-- Reads a token. `fresh` says that nothing stands in front of it that could be repeated. -/
def readToken (extended fresh : Bool) (s : Text) : Except Fault (Token × Text) := do
  match s with
  | [] => return (.ending, [])
  | '\\' :: [] => throw .slash
  | '\\' :: c :: r =>
    if !extended then
      match c with
      | '(' => return (.opening, r)
      | ')' => return (.closing, r)
      | '|' => return (.bar, r)
      | '+' => return (if fresh then .one (.char '+') else .plus, r)
      | '?' => return (if fresh then .one (.char '?') else .question, r)
      | '\x7b' =>
        if fresh then return (.one (.char '\x7b'), r)
        let (a, b, rest) ← readCounts "\\\x7d".toList r
        return (.counts a b, rest)
      | _ =>
        if '1' ≤ c && c ≤ '9' then return (.one (.back (c.toNat - 48)), r)
        else return (.one ((escaped? c).getD (.char c)), r)
    else if '1' ≤ c && c ≤ '9' then return (.one (.back (c.toNat - 48)), r)
    else return (.one ((escaped? c).getD (.char c)), r)
  | '.' :: r => return (.one .any, r)
  | '[' :: r =>
    let (x, rest) ← readSet r
    return (.one x, rest)
  | '*' :: r => return (if fresh && !extended then .one (.char '*') else .star, r)
  | '^' :: r => return (if extended || fresh then .one .start else .one (.char '^'), r)
  | '$' :: r =>
    if extended || r = [] || Text.startsWith r "\\)".toList || Text.startsWith r "\\|".toList then
      return (.one .stop, r)
    else return (.one (.char '$'), r)
  | c :: r =>
    if extended then
      match c with
      | '(' => return (.opening, r)
      | ')' => return (.closing, r)
      | '|' => return (.bar, r)
      | '+' => return (.plus, r)
      | '?' => return (.question, r)
      | '\x7b' =>
        match readCounts ['\x7d'] r with
        | .ok (a, b, rest) => return (.counts a b, rest)
        | .error e =>
          if r.head?.any Char.isDigit then throw e else return (.one (.char c), r)
      | _ => return (.one (.char c), r)
    else return (.one (.char c), r)

/-- What is read of an expression: the rest, and how many groups were opened and closed. -/
structure Reader where
  rest : Text
  opened : Nat := 0
  closed : List Nat := []

abbrev Reads := StateT Reader (Except Fault)

def isAnchor : Regex → Bool
  | start => true
  | _ => false

mutual

/-- Alternatives up to the end or to the parenthesis that closes a group. -/
def alternatives (extended : Bool) (depth : Nat) : Nat → Reads Regex
  | 0 => throw .paren
  | n + 1 => do
    let a ← sequence extended depth n true .empty
    let s ← get
    match readToken extended true s.rest with
    | .ok (.bar, rest) =>
      set { s with rest := rest }
      return .alt a (← alternatives extended depth n)
    | _ => return a

/-- Items one after another; `before` is what was read so far. -/
def sequence (extended : Bool) (depth : Nat) : Nat → Bool → Regex → Reads Regex
  | 0, _, before => return before
  | n + 1, fresh, before => do
    let s ← get
    match readToken extended fresh s.rest with
    | .error e => throw e
    | .ok (t, rest) =>
      match t with
      | .ending => if depth = 0 then return before else throw .paren
      | .bar => return before
      | .closing =>
        if depth = 0 then
          if extended then
            set { s with rest := rest }
            let x ← repeats extended n (.char ')')
            sequence extended depth n false (.seq before x)
          else throw .closing
        else return before
      | .opening =>
        let k := s.opened + 1
        set { s with rest := rest, opened := k }
        let r ← alternatives extended (depth + 1) n
        let s ← get
        match readToken extended true s.rest with
        | .ok (.closing, rest) =>
          set { s with rest := rest, closed := k :: s.closed }
          let x ← repeats extended n (.group k r)
          sequence extended depth n false (.seq before x)
        | _ => throw .paren
      | .one r =>
        set { s with rest := rest }
        match r with
        | .back k => if !s.closed.contains k then throw .backReference
        | _ => pure ()
        let x ← if isAnchor r && !extended then pure r else repeats extended n r
        sequence extended depth n (isAnchor r && !extended) (.seq before x)
      | .star | .plus | .question | .counts .. =>
        if extended && fresh then
          set { s with rest := rest }
          match t with
          | .counts .. => throw .preceding
          | _ => sequence extended depth n fresh before
        else throw .preceding

/-- The repetitions behind an item. -/
def repeats (extended : Bool) : Nat → Regex → Reads Regex
  | 0, r => return r
  | n + 1, r => do
    let s ← get
    match readToken extended false s.rest with
    | .error e => throw e
    | .ok (t, rest) =>
      let next := fun (x : Regex) => do
        set { s with rest := rest }
        repeats extended n x
      match t with
      | .star => next (.star r)
      | .plus => next (.seq r (.star r))
      | .question => next (.alt r .empty)
      | .counts a b => next (repeated r a b)
      | _ => return r

end

/-- Reads an expression. -/
def ofText (extended : Bool) (s : Text) : Except Fault Regex := do
  let (r, t) ← (alternatives extended 0 (4 * s.length + 8)).run { rest := s }
  if t.rest = [] then return r else throw .closing

/-- How many groups an expression has. -/
def groupCount : Regex → Nat
  | seq a b | alt a b => max (groupCount a) (groupCount b)
  | star r => groupCount r
  | group n r => max n (groupCount r)
  | _ => 0

end Regex

end TestWeaver.Pattern
