import TestWeaver.Machine.Work

/-!
Shell scripts: words, redirections and commands.

A word is a list of parts. What is quoted stays as it is; what is not may be cut into fields and
may be a pattern for the names of files.
-/

namespace TestWeaver.Shell

/-- How a file is opened. -/
inductive Way where
  | read
  | write
  | append
  | overwrite
  | both
deriving DecidableEq, Repr

mutual

inductive Part where
  | plain (s : Text)
  /-- Quoted text. An empty one still makes a field. -/
  | exact (s : Text)
  | parameter (name : Text) (change : Change) (quoted : Bool)
  | output (body : List Command) (quoted : Bool)
  | sum (expression : List Part) (quoted : Bool)
  /-- A name of the stream that commands write to, or read from. -/
  | channel (toRead : Bool) (body : List Command)
  /-- The words of an array behind the name that they are for. -/
  | list (ws : List (List Part))

/-- What is made of the value of a parameter. `void` counts an empty value as none; what makes no
sense keeps its text. -/
inductive Change where
  | none
  | size
  | bad (source : Text)
  | usual (void : Bool) (w : List Part)
  | assigned (void : Bool) (w : List Part)
  | demanded (void : Bool) (w : List Part)
  | instead (void : Bool) (w : List Part)
  | trimmed (atEnd longest : Bool) (pattern : List Part)
  | slice (start : List Part) (count : List Part) (counted : Bool)
  | replaced (all : Bool) (anchor : Char) (pattern w : List Part)
  | cased (upper all : Bool) (pattern : List Part)
  | indirect
  /-- The names that begin like this one. -/
  | names (joined : Bool)
  | shown (way : Char)

/-- What a word at the start of a command sets: a variable, an element, or a whole array. -/
inductive Setting where
  | scalar (name : Text) (append : Bool) (w : List Part)
  | element (name : Text) (index : List Part) (append : Bool) (w : List Part)
  | array (name : Text) (append : Bool) (ws : List (List Part))

/-- Where a word is more than one field, its text is needed for a complaint. -/
inductive Redirect where
  | file (stream : Nat) (way : Way) (w : List Part) (source : Text)
  /-- The stream of a number becomes the one that the word names. -/
  | duplicate (stream : Nat) (w : List Part) (source : Text)
  /-- A text that stands in the script, known by its number. -/
  | text (stream : Nat) (number : Nat)
  /-- A word as a text. -/
  | word (stream : Nat) (w : List Part)
  /-- Output and errors together. -/
  | all (append : Bool) (w : List Part) (source : Text)
  /-- A redirection of a free stream, whose number a variable gets. -/
  | named (name : Text) (r : Redirect)

inductive Command where
  | simple (line : Nat) (settings : List Setting) (words : List (List Part))
      (redirects : List Redirect)
  | sequence (cs : List Command)
  | both (first second : Command)
  | either (first second : Command)
  | negated (c : Command)
  | pipe (line : Nat) (cs : List Command)
  | background (c : Command)
  | subshell (line : Nat) (body : Command) (redirects : List Redirect)
  | redirected (line : Nat) (body : Command) (redirects : List Redirect)
  | choice (test yes no : Command)
  | loop (whileTrue : Bool) (test body : Command)
  | each (line : Nat) (name : Text) (words : List (List Part)) (body : Command)
  | branch (line : Nat) (word : List Part) (cases : List (List (List Part) × Command × Char))
  | define (line : Nat) (name : Text) (body : Command)
  | arithmetic (line : Nat) (expression : List Part)
  | counted (line : Nat) (start test step : List Part) (body : Command)
  | condition (line : Nat) (test : Condition)
  | timed (brief : Bool) (c : Command)
  | menu (line : Nat) (name : Text) (words : List (List Part)) (body : Command)
  | coprocess (line : Nat) (name : Text) (body : Command)
  /-- A text between backquotes that is no script. -/
  | faulty (line : Nat) (first : Option (Nat × Text)) (message row : Text)

/-- A test between double brackets. -/
inductive Condition where
  | unary (op : Text) (w : List Part)
  | binary (op : Text) (a b : List Part)
  | word (w : List Part)
  | negation (c : Condition)
  | conjunction (a b : Condition)
  | disjunction (a b : Condition)

end

abbrev Word := List Part

instance : Inhabited Command := ⟨.sequence []⟩

/-- The text of a word in which nothing is quoted or replaced. -/
def Word.literal? : Word → Option Text
  | [] => some []
  | .plain s :: ps => (Word.literal? ps).map (s ++ ·)
  | _ => none

/-- The text of a word whose quotes are only taken away. -/
def Word.stripped : Word → Text
  | [] => []
  | .plain s :: ps | .exact s :: ps => s ++ Word.stripped ps
  | _ :: ps => Word.stripped ps

def isNameStart (c : Char) : Bool := c.isAlpha || c = '_'

def isNameChar (c : Char) : Bool := c.isAlphanum || c = '_'

def isName : Text → Bool
  | [] => false
  | c :: s => isNameStart c && s.all isNameChar

/-- Why a text is no script, and the line on which that shows. Something may have to be said
first, of the same line or another. -/
structure ScriptFault where
  line : Nat
  message : Text
  first : Option (Nat × Text) := none
deriving DecidableEq, Repr

end TestWeaver.Shell
