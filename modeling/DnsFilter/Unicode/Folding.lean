import Std.Data.HashMap
import DnsFilter.Unicode.Table
/-!
# Case folding

Characters with one simple case folding form a class, in version 16 of Unicode. Each class is known
by its least member.
-/
namespace DnsFilter.Unicode

/-- A character and the least member of its class, for all characters that are not that member. -/
def foldPairs : List (Nat × Nat) :=
  let step := fun (acc : Nat × List (Nat × Nat)) (d : Nat × Nat) =>
    (acc.1 + d.1, (acc.1 + d.1, acc.1 + d.1 - d.2) :: acc.2)
  ((pairUp (unpack
  (String.join [
  "X3W11W11W11W11W11W11W11W11W11W11W11W11W11W11W11W11W11W11W11W11W11W11W11W11W11W1c3W11W11W",
  "11W11W11W11W11W11W11W11W11W11W11W11W11W11W11W11W11W11W11W11W12W11W11W11W11W11W11W1312121",
  "2121212121212121212121212121212121212121214121213121212121212121312121212121212121212121",
  "21212121212121212121211v32121211i9412131416171812121315131412131418112211221122121212121",
  "2121211l22121212121212121213112211X31u121212121212121212121212121212121212121211Y4312121",
  "212121212121911Z5511Z641212121214o61k62j61j62g62h65j63l65n61p66p63r63s6Bw63w65w61b21v61v",
  "61d26x6_612141Y1q23dNGc11b11b11b12W11W11W11W11W11W11W11W11q31W11W11dO1W11W11W11W11W11V1W",
  "11W11W11W11W11W11W11W11W11W21_11_12-11v14l11s1182121212121212121212121211s21m22q31y21W33",
  "117212Y41Y41Y4n1W11W11W11W11W11W11W11W11W11W11W11W11W11W11W11W11W11W11W11W11W11W11W11W11",
  "W11W11W11W11W11W11W11W11m21m21m21m21m21m21m21m21m21m21m21m21m21m21m21m221212121212121212",
  "12121212121212121A12121212121212121212121212121212121212121212121212121312121212121211F2",
  "1212121212121212121212121212121212121212121212121212121212121212121212121212121212121212",
  "1212121o1m11m11m11m11m11m11m11m11m11m11m11m11m11m11m11m11m11m11m11m11m11m11m11m11m11m11m",
  "11m11m11m11m11m11m11m11m11m11m11m1op381818181818Za2kZ61jZ61aZ61YZ61YZ61ZZ61yY61bX6316W-2",
  "1W-21W-21W-21W-21W-21W-21W-21W-21W-21W-21W-21W-21W-21W-21W-21W-21W-21W-21W-21W-21W-21W-2",
  "1W-21W-21W-21W-21W-21W-21W-21W-21W-21W-21W-21W-21W-21W-21W-21W-21W-21W-21W-21W-23W-21W-2",
  "1W-2YA1212121212121212121212121212121212121212121212121212121212121212121212121212121212",
  "12121212121212121212121212121212121212121212121212121212121212121216x13_j731212121212121",
  "2121212121212121212121212121212121212121212121212121212121212121212121212121212121981818",
  "1818181818981818181818B8181818181818189818181818181818981818181818C828282898181818181818",
  "18P8181818181818189818181818181818981818181818181898181g21g2192vZ7As21s21s21s2197ZY75818",
  "1a31a38pX758181m31m317CW41W41-31-319g9zh74_c81cZ8Z1SY1G1G1G1G1G1G1G1G1G1G1G1G1G1G1G1G51i",
  "QQ1Q1Q1Q1Q1Q1Q1Q1Q1Q1Q1Q1Q1Q1Q1Q1Q1Q1Q1Q1Q1Q1Q1Q1Q1Qdw1m11m11m11m11m11m11m11m11m11m11m11",
  "m11m11m11m11m11m11m11m11m11m11m11m11m11m11m11m11m11m11m11m11m11m11m11m11m11m11m11m11m11m",
  "11m11m11m11m11m11m11m1211tlA1ct31dlA1hnA1enA2121211ymA1zlA1_mA1-mA31318_nA1_nA2121212121",
  "2121212121212121212121212121212121212121212121212121212121212121212121212121212121212121",
  "21912151DWZ71WZ71WZ71WZ71WZ71WZ71WZ71WZ71WZ71WZ71WZ71WZ71WZ71WZ71WZ71WZ71WZ71WZ71WZ71WZ7",
  "1WZ71WZ71WZ71WZ71WZ71WZ71WZ71WZ71WZ71WZ71WZ71WZ71WZ71WZ71WZ71WZ71WZ71WZ72WZ76WZ7qeU12121",
  "21211YkY11ZkY12121212121212121212121212121212121K121212121212121212121212121e41212121212",
  "12141212121212121212121212121212121212121212121212121212121212121B1211amY12121212121511e",
  "ff14121412121212121212121211agf11lgf11hgf11Xgf11agf12oef11gff11ref131212121212121211m11Z",
  "gf11unY121211dhf121416121211Xof1Q1zQWTTm-b11m-b11m-b11m-b11m-b11m-b11m-b11m-b11m-b11m-b1",
  "1m-b11m-b11m-b11m-b11m-b11m-b11m-b11m-b11m-b11m-b11m-b11m-b11m-b11m-b11m-b11m-b11m-b11m-",
  "b11m-b11m-b11m-b11m-b11m-b11m-b11m-b11m-b11m-b11m-b11m-b11m-b11m-b11m-b11m-b11m-b11m-b11",
  "m-b11m-b11m-b11m-b11m-b11m-b11m-b11m-b11m-b11m-b11m-b11m-b11m-b11m-b11m-b11m-b11m-b11m-b",
  "11m-b11m-b11m-b11m-b11m-b11m-b11m-b11m-b11m-b11m-b11m-b11m-b11m-b11m-b11m-b11m-b11m-b1dw",
  "J1xX1W11W11W11W11W11W11W11W11W11W11W11W11W11W11W11W11W11W11W11W11W11W11W11W11W11W1kc1e11",
  "e11e11e11e11e11e11e11e11e11e11e11e11e11e11e11e11e11e11e11e11e11e11e11e11e11e11e11e11e11e",
  "11e11e11e11e11e11e11e11e11e1f4e11e11e11e11e11e11e11e11e11e11e11e11e11e11e11e11e11e11e11e",
  "11e11e11e11e11e11e11e11e11e11e11e11e11e11e11e11e1y4d11d11d11d11d11d11d11d11d11d11d12d11d",
  "11d11d11d11d11d11d11d11d11d11d11d11d11d12d11d11d11d11d11d11d12d11d1au1W21W21W21W21W21W21",
  "W21W21W21W21W21W21W21W21W21W21W21W21W21W21W21W21W21W21W21W21W21W21W21W21W21W21W21W21W21W",
  "21W21W21W21W21W21W21W21W21W21W21W21W21W21W21W2-3W11W11W11W11W11W11W11W11W11W11W11W11W11W",
  "11W11W11W11W11W11W11W11W1xv2W11W11W11W11W11W11W11W11W11W11W11W11W11W11W11W11W11W11W11W11",
  "W11W11W11W11W11W11W11W11W11W11W11W1XiLW11W11W11W11W11W11W11W11W11W11W11W11W11W11W11W11W1",
  "1W11W11W11W11W11W11W11W11W11W11W11W11W11W11W1ZrUY11Y11Y11Y11Y11Y11Y11Y11Y11Y11Y11Y11Y11Y",
  "11Y11Y11Y11Y11Y11Y11Y11Y11Y11Y11Y11Y11Y11Y11Y11Y11Y11Y11Y11Y1"]))).foldl step (0, [])).2.reverse

def foldLeast : Std.HashMap Nat Nat := Std.HashMap.ofList foldPairs

def foldClasses : Std.HashMap Nat (List Nat) :=
  foldPairs.foldl (fun m p => m.insert p.2 ((m.getD p.2 [p.2]) ++ [p.1])) ∅

/-- The classes of more than one member. -/
def foldOrbits : List (List Nat) := foldClasses.toList.map (·.2)

/-- The least character with the same simple case folding. -/
def foldOf (n : Nat) : Nat := foldLeast.getD n n

/-- The characters with the same simple case folding as `n`, itself among them. -/
def foldClass (n : Nat) : List Nat := foldClasses.getD (foldOf n) [n]

end DnsFilter.Unicode
