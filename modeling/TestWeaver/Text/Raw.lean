import TestWeaver.Text.Utf8

/-!
Raw texts. Most programs know no characters but octets, so each character of a raw text stands
for one octet.
-/

namespace TestWeaver.Raw

open Utf8 (Octets)

def ofOctets (bs : Octets) : Text := bs.map fun b => Char.ofNat b.toNat

def toOctets (s : Text) : Octets := s.map fun c => UInt8.ofNat c.toNat

def ofText (s : Text) : Text := ofOctets (Utf8.encode s)

def toText (s : Text) : Text := Utf8.decodeLossy (toOctets s)

def ofNat (n : Nat) : Text := (toString n).toList

def ofInt (n : Int) : Text := (toString n).toList

end TestWeaver.Raw
