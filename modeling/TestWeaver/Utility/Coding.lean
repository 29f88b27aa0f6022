import TestWeaver.Utility.Content

/-!
Octets in other notations, and sums of them.
-/

namespace TestWeaver.Utility

open Machine (Refusal)

/-! ### base 64 -/

def base64Letters : Text :=
  "ABCDEFGHIJKLMNOPQRSTUVWXYZabcdefghijklmnopqrstuvwxyz0123456789+/".toList

def letter64 (n : Nat) : Char := base64Letters.getD (n % 64) 'A'

def encode64 : Text → Text
  | a :: b :: c :: r =>
    let n := a.toNat * 65536 + b.toNat * 256 + c.toNat
    letter64 (n / 262144) :: letter64 (n / 4096) :: letter64 (n / 64) :: letter64 n :: encode64 r
  | [a, b] =>
    let n := a.toNat * 65536 + b.toNat * 256
    [letter64 (n / 262144), letter64 (n / 4096), letter64 (n / 64), '=']
  | [a] =>
    let n := a.toNat * 65536
    [letter64 (n / 262144), letter64 (n / 4096), '=', '=']
  | [] => []

/-- The octets of letters in groups of four, as far as they are right, and whether all are. -/
def decode64 : Nat → Text → Text × Bool
  | 0, _ => ([], true)
  | _ + 1, [] => ([], true)
  | n + 1, t =>
    let quad := t.take 4
    let digits := quad.takeWhile (· ≠ '=')
    let ns := (digits.map fun c => base64Letters.findIdx? (· = c)).takeWhile Option.isSome
    let ns := ns.filterMap fun n => n
    let octets := fun (m : Nat) => [m / 65536, m / 256 % 256, m % 256].map Char.ofNat
    if ns.length ≠ digits.length || quad.length < 4 || digits.length < 2 ||
        !(quad.drop digits.length).all (· = '=') then
      let m := (ns ++ List.replicate (4 - ns.length) 0).foldl (fun m d => m * 64 + d) 0
      ((octets m).take (ns.length * 6 / 8), false)
    else
      let m := (ns ++ List.replicate (4 - ns.length) 0).foldl (fun m d => m * 64 + d) 0
      let (rest, fine) := decode64 n (t.drop 4)
      ((octets m).take (digits.length - 1) ++ rest, fine)

def rowsOfWidth (width : Nat) : Nat → Text → List Text
  | 0, _ => []
  | n + 1, t => if t = [] then [] else t.take width :: rowsOfWidth width n (t.drop width)

def needInput (names : List Text) : Act Text := do
  if let x :: _ := names.drop 1 then extraOperand x
  let name := names.headD ['-']
  match ← readFile name with
  | .ok t => return t
  | .error (.files .isDirectory) => die "read error: Is a directory".toList
  | .error e => die (shown name ++ ": ".toList ++ e.text)

/-! ### base 32 -/

def base32Letters : Text := "ABCDEFGHIJKLMNOPQRSTUVWXYZ234567".toList

/-- Five octets as eight letters; what is missing at the end is marked. -/
def encode32 : Nat → Text → Text
  | 0, _ => []
  | n + 1, t =>
    if t = [] then []
    else
      let five := t.take 5
      let m := (five ++ List.replicate (5 - five.length) (Char.ofNat 0)).foldl
        (fun m c => m * 256 + c.toNat) 0
      let letters := (List.range 8).reverse.map fun k =>
        base32Letters.getD (m / Nat.pow 32 k % 32) 'A'
      let used := (five.length * 8 + 4) / 5
      letters.take used ++ List.replicate (8 - used) '=' ++ encode32 n (t.drop 5)

def decode32 : Nat → Text → Text × Bool
  | 0, _ => ([], true)
  | _ + 1, [] => ([], true)
  | n + 1, t =>
    let eight := t.take 8
    let digits := eight.takeWhile (· ≠ '=')
    let ns := (digits.map fun c => base32Letters.findIdx? (· = c)).takeWhile Option.isSome
    let ns := ns.filterMap fun n => n
    let m := (ns ++ List.replicate (8 - ns.length) 0).foldl (fun m d => m * 32 + d) 0
    let octets := (octetsOf 5 m).take (ns.length * 5 / 8)
    if ns.length ≠ digits.length || eight.length < 8 || !([2, 4, 5, 7, 8].contains digits.length) ||
        !(eight.drop digits.length).all (· = '=') then (octets, false)
    else
      let (rest, fine) := decode32 n (t.drop 8)
      (octets ++ rest, fine)
where
  octetsOf (count n : Nat) : Text :=
    (List.range count).reverse.map fun k => Char.ofNat (n / Nat.pow 256 k % 256)

/-- Writes octets as letters, or reads such letters. -/
def codingProgram (letters : Text) (encode : Text → Text) (decode : Text → Text × Bool) :
    Program := fun args => do
  let (os, names) ← parse [⟨'d', "decode", false, false⟩, ⟨'i', "ignore-garbage", false, false⟩,
    ⟨'w', "wrap", true, false⟩] args
  let width ← match valueOf os 'w' with
    | none => pure 76
    | some w => if isDigits w then pure (number w) else die ("invalid wrap size: ".toList ++ curly w)
  let t ← needInput names
  if has os 'd' then
    let (out, fine) := decode (t.filter fun c =>
      c ≠ '\n' && (!has os 'i' || letters.contains c || c = '='))
    emit out
    if !fine then
      flush
      die "invalid input".toList
  else
    let e := encode t
    if width = 0 then emit e
    else (rowsOfWidth width (e.length + 1) e).forM emitLine

def base64 : Program := codingProgram base64Letters encode64 fun t => decode64 (t.length + 1) t

def base32 : Program :=
  codingProgram base32Letters (fun t => encode32 (t.length + 1) t) fun t => decode32 (t.length + 1) t

/-! ### sums -/

def wordOf (bigEndian : Bool) (t : Text) : UInt32 :=
  UInt32.ofNat ((if bigEndian then t else t.reverse).foldl (fun n c => n * 256 + c.toNat) 0)

def rotate (n : UInt32) (k : UInt32) : UInt32 := (n <<< k) ||| (n >>> (32 - k))

/-- The octets of a number, so many, the greatest first. -/
def octetsOf (count n : Nat) : Text :=
  (List.range count).reverse.map fun k => Char.ofNat (n / Nat.pow 256 k % 256)

/-- A text with a mark and its length behind it, up to a whole number of blocks. -/
def padded (bigEndian : Bool) (t : Text) : Text :=
  let zeros := (119 - t.length % 64) % 64
  let size := octetsOf 8 (8 * t.length)
  t ++ Char.ofNat 128 :: List.replicate zeros (Char.ofNat 0) ++ if bigEndian then size else size.reverse

def blocksOf (bigEndian : Bool) : Nat → Text → List (Array UInt32)
  | 0, _ => []
  | n + 1, t =>
    if t = [] then []
    else
      let words := (List.range 16).map fun i => wordOf bigEndian ((t.drop (4 * i)).take 4)
      words.toArray :: blocksOf bigEndian n (t.drop 64)

def hexOf (bigEndian : Bool) (ns : List UInt32) : Text :=
  ns.flatMap fun n =>
    let os := octetsOf 4 n.toNat
    (if bigEndian then os else os.reverse).flatMap fun c =>
      let ds := Nat.toDigits 16 c.toNat
      List.replicate (2 - ds.length) '0' ++ ds

def item (a : Array UInt32) (i : Nat) : UInt32 := a[i]?.getD 0

def primes : List Nat :=
  (List.range 410).filter fun n => 2 ≤ n && (List.range n).all fun d => d < 2 || n % d ≠ 0

/-- The greatest number of which a power is not above another one. -/
def rootFrom (power n : Nat) : Nat → Nat → Nat → Nat
  | 0, low, _ => low
  | k + 1, low, high =>
    let middle := (low + high) / 2
    if high ≤ low + 1 then low
    else if Nat.pow middle power ≤ n then rootFrom power n k middle high
    else rootFrom power n k low middle

/-- The first 32 binary places of a root of a number. -/
def rootPlaces (power n : Nat) : UInt32 :=
  UInt32.ofNat (rootFrom power (n * Nat.pow 2 (32 * power)) 200 0 (Nat.pow 2 48) % Nat.pow 2 32)

def sha256Constants : Array UInt32 := ((primes.take 64).map (rootPlaces 3)).toArray

def sha256Start : List UInt32 := (primes.take 8).map (rootPlaces 2)

def sha256Words (block : Array UInt32) : Array UInt32 :=
  (List.range 48).foldl (fun w i =>
    let a := item w (i + 1)
    let b := item w (i + 14)
    let s0 := rotate a 25 ^^^ rotate a 14 ^^^ (a >>> 3)
    let s1 := rotate b 15 ^^^ rotate b 13 ^^^ (b >>> 10)
    w.push (item w i + s0 + item w (i + 9) + s1)) block

def sha256Block (constants : Array UInt32) (h : List UInt32) (block : Array UInt32) : List UInt32 :=
  let w := sha256Words block
  let out := (List.range 64).foldl (fun (s : List UInt32) i =>
    match s with
    | [a, b, c, d, e, f, g, h] =>
      let s1 := rotate e 26 ^^^ rotate e 21 ^^^ rotate e 7
      let choice := (e &&& f) ^^^ ((e ^^^ 0xFFFFFFFF) &&& g)
      let t1 := h + s1 + choice + item constants i + item w i
      let s0 := rotate a 30 ^^^ rotate a 19 ^^^ rotate a 10
      let majority := (a &&& b) ^^^ (a &&& c) ^^^ (b &&& c)
      [t1 + s0 + majority, a, b, c, d + t1, e, f, g]
    | s => s) h
  (h.zip out).map fun (x, y) => x + y

def sha256 (t : Text) : Text :=
  let p := padded true t
  let constants := sha256Constants
  hexOf true ((blocksOf true (p.length / 64) p).foldl (sha256Block constants) sha256Start)

/-- The same with numbers of 64 bits. -/
structure Wide where
  start : List UInt64
  constants : Array UInt64

/-- The first 64 binary places of a root of a number. -/
def widePlaces (power n : Nat) : UInt64 :=
  UInt64.ofNat (rootFrom power (n * Nat.pow 2 (64 * power)) 300 0 (Nat.pow 2 80) % Nat.pow 2 64)

def rotateWide (n k : UInt64) : UInt64 := (n >>> k) ||| (n <<< (64 - k))

def wideItem (a : Array UInt64) (i : Nat) : UInt64 := a[i]?.getD 0

def wideWords (t : Text) : Array UInt64 :=
  let block := (List.range 16).map fun i =>
    UInt64.ofNat (((t.drop (8 * i)).take 8).foldl (fun n c => n * 256 + c.toNat) 0)
  (List.range 64).foldl (fun w i =>
    let a := wideItem w (i + 1)
    let b := wideItem w (i + 14)
    let s0 := rotateWide a 1 ^^^ rotateWide a 8 ^^^ (a >>> 7)
    let s1 := rotateWide b 19 ^^^ rotateWide b 61 ^^^ (b >>> 6)
    w.push (wideItem w i + s0 + wideItem w (i + 9) + s1)) block.toArray

def wideBlock (constants : Array UInt64) (h : List UInt64) (t : Text) : List UInt64 :=
  let w := wideWords t
  let out := (List.range 80).foldl (fun (s : List UInt64) i =>
    match s with
    | [a, b, c, d, e, f, g, h] =>
      let s1 := rotateWide e 14 ^^^ rotateWide e 18 ^^^ rotateWide e 41
      let choice := (e &&& f) ^^^ ((~~~e) &&& g)
      let t1 := h + s1 + choice + wideItem constants i + wideItem w i
      let s0 := rotateWide a 28 ^^^ rotateWide a 34 ^^^ rotateWide a 39
      let majority := (a &&& b) ^^^ (a &&& c) ^^^ (b &&& c)
      [t1 + s0 + majority, a, b, c, d + t1, e, f, g]
    | s => s) h
  (h.zip out).map fun (x, y) => x + y

def wideSum (start : List UInt64) (t : Text) : Text :=
  let zeros := (239 - t.length % 128) % 128
  let p := t ++ Char.ofNat 128 :: List.replicate zeros (Char.ofNat 0) ++ octetsOf 16 (8 * t.length)
  let constants := ((primes.take 80).map (widePlaces 3)).toArray
  let blocks := (List.range (p.length / 128)).map fun i => (p.drop (128 * i)).take 128
  (blocks.foldl (wideBlock constants) start).flatMap fun (n : UInt64) =>
    hexOf true [(n >>> 32).toUInt32, n.toUInt32]

def sha512 (t : Text) : Text := wideSum ((primes.take 8).map (widePlaces 2)) t

/-- The numbers that the shorter sums begin with. -/
def laterStart : List UInt64 := ((primes.drop 8).take 8).map (widePlaces 2)

def sha384 (t : Text) : Text := (wideSum laterStart t).take 96

def sha224 (t : Text) : Text :=
  let p := padded true t
  let constants := sha256Constants
  (hexOf true ((blocksOf true (p.length / 64) p).foldl (sha256Block constants)
    (laterStart.map UInt64.toUInt32))).take 56

def sha1Block (h : List UInt32) (block : Array UInt32) : List UInt32 :=
  let w := (List.range 64).foldl (fun w i =>
    w.push (rotate (item w (i + 13) ^^^ item w (i + 8) ^^^ item w (i + 2) ^^^ item w i) 1)) block
  let out := (List.range 80).foldl (fun (s : List UInt32) i =>
    match s with
    | [a, b, c, d, e] =>
      let (f, k) : UInt32 × UInt32 :=
        if i < 20 then ((b &&& c) ||| ((b ^^^ 0xFFFFFFFF) &&& d), 0x5A827999)
        else if i < 40 then (b ^^^ c ^^^ d, 0x6ED9EBA1)
        else if i < 60 then ((b &&& c) ||| (b &&& d) ||| (c &&& d), 0x8F1BBCDC)
        else (b ^^^ c ^^^ d, 0xCA62C1D6)
      [rotate a 5 + f + e + k + item w i, a, rotate b 30, c, d]
    | s => s) h
  (h.zip out).map fun (x, y) => x + y

def sha1 (t : Text) : Text :=
  let p := padded true t
  hexOf true ((blocksOf true (p.length / 64) p).foldl sha1Block
    [0x67452301, 0xEFCDAB89, 0x98BADCFE, 0x10325476, 0xC3D2E1F0])

def md5Shifts : List (List UInt32) :=
  [[7, 12, 17, 22], [5, 9, 14, 20], [4, 11, 16, 23], [6, 10, 15, 21]]

/-- The sines of whole numbers, as 32 binary places. -/
def md5Constants : Array UInt32 :=
  ((List.range 64).map fun i =>
    let x := (Float.sin (i + 1).toFloat).abs * 4294967296.0
    x.floor.toUInt64.toUInt32).toArray

def md5Block (constants : Array UInt32) (h : List UInt32) (block : Array UInt32) : List UInt32 :=
  let out := (List.range 64).foldl (fun (s : List UInt32) i =>
    match s with
    | [a, b, c, d] =>
      let no := fun (n : UInt32) => n ^^^ 0xFFFFFFFF
      let (f, g) : UInt32 × Nat :=
        if i < 16 then ((b &&& c) ||| (no b &&& d), i)
        else if i < 32 then ((d &&& b) ||| (no d &&& c), (5 * i + 1) % 16)
        else if i < 48 then (b ^^^ c ^^^ d, (3 * i + 5) % 16)
        else (c ^^^ (b ||| no d), 7 * i % 16)
      let k := ((md5Shifts.getD (i / 16) []).getD (i % 4) 0)
      [d, b + rotate (a + f + item constants i + item block g) k, b, c]
    | s => s) h
  (h.zip out).map fun (x, y) => x + y

def md5 (t : Text) : Text :=
  let p := padded false t
  let constants := md5Constants
  hexOf false ((blocksOf false (p.length / 64) p).foldl (md5Block constants)
    [0x67452301, 0xEFCDAB89, 0x98BADCFE, 0x10325476])

/-- The sum and the file of a row in a list of sums that are so long. -/
def sumRow? (length : Nat) (title : Text) (row : Text) : Option (Text × Text) :=
  let isSum := fun (t : Text) => t.length = length && t.all fun c => c.isDigit || ('a' ≤ c.toLower && c.toLower ≤ 'f')
  match Text.after? (title ++ " (".toList) row with
  | some r =>
    match Text.cut? ") = ".toList r with
    | some (name, hash) => if isSum hash then some (hash, name) else none
    | none => none
  | none =>
    let hash := row.takeWhile (· ≠ ' ')
    match row.drop hash.length with
    | ' ' :: c :: name =>
      if isSum hash && name ≠ [] && (c = ' ' || c = '*') then some (hash, name) else none
    | _ => none

/-- Checks the files of a list of sums. -/
def checkSums (os : List Given) (sum : Text → Text) (title name list : Text) : Act Unit := do
  let quiet := has os '3'
  let length := (sum []).length
  let rows := plainRows list
  let good := rows.filterMap (sumRow? length title)
  if good = [] then
    flush
    grumble (name ++ ": no properly formatted checksum lines found".toList)
    return
  let mut bad := 0
  let mut unread := 0
  let mut done := 0
  for (hash, file) in good do
    match ← readFile file with
    | .ok t =>
      done := done + 1
      let fine := sum t = hash.map Char.toLower
      if !fine then bad := bad + 1
      if !quiet && !(fine && has os '2') then
        emitLine (file ++ (if fine then ": OK" else ": FAILED").toList)
    | .error e =>
      if !(has os '4' && e = .files .noEntry) then
        flush
        grumble (shown file ++ ": ".toList ++ e.text)
        unread := unread + 1
        if !quiet then emitLine (file ++ ": FAILED open or read".toList)
  flush
  let warn := fun (n : Nat) (one many : String) => do
    if n ≠ 0 && !quiet then
      complain ("WARNING: ".toList ++ Raw.ofNat n ++ (if n = 1 then one else many).toList)
  warn (rows.length - good.length) " line is improperly formatted" " lines are improperly formatted"
  warn unread " listed file could not be read" " listed files could not be read"
  warn bad " computed checksum did NOT match" " computed checksums did NOT match"
  if has os '4' && done = 0 then
    complain (name ++ ": no file was verified".toList)
    setStatus 1
  if bad ≠ 0 || unread ≠ 0 then setStatus 1

/-- Sums of files, or whether they are as a list says. -/
def sumProgram (title : String) (sum : Text → Text) : Program := fun args => do
  let (os, names) ← parse [⟨'b', "binary", false, false⟩, ⟨'c', "check", false, false⟩,
    ⟨'t', "text", false, false⟩, ⟨'z', "zero", false, false⟩, ⟨'1', "tag", false, false⟩,
    ⟨'2', "quiet", false, false⟩, ⟨'3', "status", false, false⟩, ⟨'w', "warn", false, false⟩,
    ⟨'4', "ignore-missing", false, false⟩, ⟨'5', "strict", false, false⟩] args
  for n in inputs names do
    match ← readFile n with
    | .error e =>
      flush
      grumble (shown n ++ ": ".toList ++ e.text)
    | .ok t =>
      if has os 'c' then checkSums os sum title.toList (shown n) t
      else if has os '1' then emitLine (title.toList ++ " (".toList ++ n ++ ") = ".toList ++ sum t)
      else emitLine (sum t ++ (if has os 'b' then " *" else "  ").toList ++ n)

/-- Turns a number of 16 bits to the right and adds to it, for each octet. -/
def turnedSum (t : Text) : Nat :=
  t.foldl (fun n c => (n / 2 + n % 2 * 32768 + c.toNat) % 65536) 0

def sumOctets : Program := fun args => do
  let (os, names) ← parse [⟨'r', "", false, false⟩, ⟨'s', "sysv", false, false⟩] args
  for n in inputs names do
    match ← readFile n with
    | .error e =>
      flush
      grumble (shown n ++ ": ".toList ++ e.text)
    | .ok t =>
      let name := if names = [] then [] else ' ' :: n
      if has os 's' then
        let total := t.foldl (fun n c => n + c.toNat) 0 % 4294967296
        let r := total % 65536 + total / 65536
        emitLine (Raw.ofNat (r % 65536 + r / 65536) ++ ' ' :: Raw.ofNat ((t.length + 511) / 512) ++ name)
      else
        emitLine (zeroPadded 5 (turnedSum t) ++ ' ' ::
          padLeft 5 (Raw.ofNat ((t.length + 1023) / 1024)) ++ name)

/-- The polynomial sum of octets and their number. -/
def crcStep (n : UInt32) (c : Char) : UInt32 :=
  (List.range 8).foldl (fun m _ =>
    if m &&& 0x80000000 ≠ 0 then (m <<< 1) ^^^ 0x04C11DB7 else m <<< 1)
    (n ^^^ (UInt32.ofNat c.toNat <<< 24))

/-- A number as its octets, the least first, as many as it has. -/
def lengthOctets : Nat → Nat → Text
  | 0, _ => []
  | k + 1, n => if n = 0 then [] else Char.ofNat (n % 256) :: lengthOctets k (n / 256)

def cksum : Program := fun args => do
  let (_, names) ← parse [⟨'a', "algorithm", true, false⟩] args
  for n in inputs names do
    match ← readFile n with
    | .error e =>
      flush
      grumble (shown n ++ ": ".toList ++ e.text)
    | .ok t =>
      let crc := (t ++ lengthOctets 8 t.length).foldl crcStep 0
      emitLine (Raw.ofNat (crc ^^^ 0xFFFFFFFF).toNat ++ ' ' :: Raw.ofNat t.length ++
        if names = [] then [] else ' ' :: n)

/-! ### od -/

/-- How octets are shown: the size of a group, how wide it is, and its text. -/
structure OctetFormat where
  size : Nat
  width : Nat
  shownAs : Text → Text

def groupValue (t : Text) : Nat := t.reverse.foldl (fun n c => n * 256 + c.toNat) 0

def padded0 (base width n : Nat) : Text :=
  let ds := Nat.toDigits base n
  List.replicate (width - ds.length) '0' ++ ds

def signedValue (size n : Nat) : Int :=
  if Nat.pow 256 size ≤ 2 * n then (n : Int) - (Nat.pow 256 size : Nat) else n

def octetLetter (t : Text) : Text :=
  match t with
  | [c] =>
    match (shortEscapes.filter fun e => e.1 ≠ 'e' && e.1 ≠ '\\').find? fun e => e.2 = c with
    | some (l, _) => ['\\', l]
    | none =>
      if c.toNat = 0 then ['\\', '0']
      else if 32 ≤ c.toNat && c.toNat < 127 then [c]
      else padded0 8 3 c.toNat
  | _ => []

def controlNames : List String :=
  ["nul", "soh", "stx", "etx", "eot", "enq", "ack", "bel", "bs", "ht", "nl", "vt", "ff", "cr", "so",
    "si", "dle", "dc1", "dc2", "dc3", "dc4", "nak", "syn", "etb", "can", "em", "sub", "esc", "fs",
    "gs", "rs", "us", "sp"]

def octetName (t : Text) : Text :=
  match t with
  | [c] =>
    let n := c.toNat % 128
    if n = 127 then "del".toList
    else
      match controlNames[n]? with
      | some s => s.toList
      | none => [Char.ofNat n]
  | _ => []

def digitsFor (base size : Nat) : Nat := (Nat.toDigits base (Nat.pow 256 size - 1)).length

def octetFormat? (t : Text) : Option OctetFormat :=
  match t.filter (· ≠ 'z') with
  | ['c'] => some ⟨1, 3, octetLetter⟩
  | ['a'] => some ⟨1, 3, octetName⟩
  | c :: r =>
    let size := match r with
      | ['C'] => 1
      | ['S'] => 2
      | ['I'] | [] => 4
      | ['L'] => 8
      | ds => number ds
    if !([1, 2, 4, 8].contains size) then none
    else
      match c with
      | 'x' => some ⟨size, digitsFor 16 size, fun t => padded0 16 (digitsFor 16 size) (groupValue t)⟩
      | 'o' => some ⟨size, digitsFor 8 size, fun t => padded0 8 (digitsFor 8 size) (groupValue t)⟩
      | 'u' => some ⟨size, digitsFor 10 size, fun t => Raw.ofNat (groupValue t)⟩
      | 'd' =>
        let width := (Raw.ofNat (Nat.pow 256 size / 2)).length + 1
        some ⟨size, width, fun t => Raw.ofInt (signedValue size (groupValue t))⟩
      | _ => none
  | [] => none

def groupsOf (size : Nat) : Nat → Text → List Text
  | 0, _ => []
  | n + 1, t =>
    if t = [] then []
    else
      let g := t.take size
      (g ++ List.replicate (size - g.length) (Char.ofNat 0)) :: groupsOf size n (t.drop size)

/-- A row in a format, which is `pad` characters narrower than the widest one when it is full. -/
def octetRow (f : OctetFormat) (width pad : Nat) (t : Text) : Text :=
  let count := width / f.size
  (groupsOf f.size (t.length + 1) t).zipIdx.flatMap fun (g, i) =>
    let later := fun (i : Nat) => pad * (count - i) / count
    ' ' :: padLeft (f.width + (later i - later (i + 1))) (f.shownAs g)

/-- The characters of a row behind its octets. -/
def trailer (f : OctetFormat) (width : Nat) (t : Text) : Text :=
  List.replicate ((width - t.length) / f.size * (f.width + 1)) ' ' ++ "  >".toList ++
    t.map (fun c => if 32 ≤ c.toNat && c.toNat < 127 then c else '.') ++ ['<']

def od : Program := fun args => do
  let (os, names) ← parse [⟨'A', "address-radix", true, false⟩, ⟨'t', "format", true, false⟩,
    ⟨'N', "read-bytes", true, false⟩, ⟨'j', "skip-bytes", true, false⟩,
    ⟨'w', "width", true, true⟩, ⟨'v', "output-duplicates", false, false⟩, ⟨'a', "", false, false⟩,
    ⟨'b', "", false, false⟩, ⟨'c', "", false, false⟩, ⟨'d', "", false, false⟩,
    ⟨'o', "", false, false⟩, ⟨'x', "", false, false⟩, ⟨'s', "", false, false⟩,
    ⟨'i', "", false, false⟩] args
  let short : List (Char × String) := [('a', "a"), ('b', "o1"), ('c', "c"), ('d', "u2"), ('o', "o2"),
    ('x', "x2"), ('s', "d2"), ('i', "d4")]
  let base := (valueOf os 'A').getD ['o']
  if !(["d", "o", "x", "n"].any fun b => b.toList = base.take 1) then
    die ("invalid output address radix '".toList ++ base.take 1 ++
      "'; it must be one character from [doxn]".toList)
  let wanted := os.flatMap fun o =>
    if o.letter = 't' then formatsIn (o.text.length + 1) o.text
    else ((short.lookup o.letter).map fun s => [s.toList]).getD []
  let formats ← (if wanted = [] then ["o2".toList] else wanted).mapM fun w => do
    match octetFormat? w with
    | some f => return (f, w.contains 'z')
    | none =>
      let c := w.headD ' '
      if "acdfoux".toList.contains c then die ("invalid type string ".toList ++ curly w)
      else die ("invalid character '".toList ++ c :: "' in type string ".toList ++ curly w)
  let t ← readAllInputs names plainComplaint
  let missing := (← get).status ≠ 0 && t = []
  let t := t.drop (((valueOf os 'j').bind count?).getD 0)
  let t := match (valueOf os 'N').bind count? with
    | some n => t.take n
    | none => t
  let width := match valueOf os 'w' with
    | some [] => 32
    | some w => number w
    | none => 16
  let start := ((valueOf os 'j').bind count?).getD 0
  let address := fun (n : Nat) =>
    match base with
    | ['d'] => padded0 10 7 n
    | ['x'] => padded0 16 6 n
    | ['n'] => []
    | _ => padded0 8 7 n
  let width := max 1 width
  let blockOf := fun (f : OctetFormat) => (f.width + 1) * (width / f.size)
  let block := formats.foldl (fun m f => max m (blockOf f.1)) 0
  let rows := rowsOfWidth width (t.length + 1) t
  let _ ← rows.zipIdx.foldlM (fun ((last, starred) : Option Text × Bool) (row, i) => do
    if last = some row && !has os 'v' && row.length = width then
      if !starred then emitLine ['*']
      return (last, true)
    else
      for ((f, tailed), j) in formats.zipIdx do
        let front := if j = 0 then address (start + i * width) else List.replicate (address 0).length ' '
        emitLine (front ++ octetRow f width (block - blockOf f) row ++
          if tailed then trailer f width row else [])
      return (some row, false)) (none, false)
  if base ≠ ['n'] && !missing then emitLine (address (start + t.length))
where
  formatsIn : Nat → Text → List Text
    | 0, _ => []
    | _ + 1, [] => []
    | n + 1, c :: r =>
      let size := if c = 'a' || c = 'c' then [] else
        r.takeWhile fun d => d.isDigit || "CSIL".toList.contains d
      let z := (r.drop size.length).takeWhile (· = 'z')
      (c :: size ++ z.take 1) :: formatsIn n (r.drop (size.length + z.length))

end TestWeaver.Utility
