import PolicyDesk.Text.Integer

/-!
# Values on a command line

* `readWord64`: an identifier or a time.
* `readRanged`: a smaller number, which is read as a signed one first and then compared with its bounds.
-/

namespace PolicyDesk.CommandLine

/-- Reads a number of 64 bits. -/
def readWord64 (s : String) : Except String UInt64 :=
  match Text.readUnsigned (UInt64.size - 1) s.toList with
  | .ok n => .ok (UInt64.ofNat n)
  | .error f => .error f.message

/-- Reads a number from zero to `most`. -/
def readRanged (most : Nat) (s : String) : Except String Nat :=
  match Text.readSigned 0x8000000000000000 0x7FFFFFFFFFFFFFFF s.toList with
  | .ok n =>
    if 0 ≤ n ∧ n ≤ (most : Int) then .ok n.toNat
    else .error (String.ofList (Text.integer n ++ " is not in 0..=".toList ++ Text.natural most))
  | .error f => .error f.message

end PolicyDesk.CommandLine
