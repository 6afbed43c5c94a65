/-!
# Upper case for names in ASCII

Full upper-casing as far as a comparison with ASCII text can see it: every character whose
upper-case form lies in ASCII is mapped, and one whose form does not is kept, so that it still
differs from every ASCII name.
-/
namespace DnsFilter.Text

def upperForm (c : Char) : List Char :=
  match c.toNat with
  | 0xDF => ['S', 'S']
  | 0x131 => ['I']
  | 0x17F => ['S']
  | 0xFB00 => ['F', 'F']
  | 0xFB01 => ['F', 'I']
  | 0xFB02 => ['F', 'L']
  | 0xFB03 => ['F', 'F', 'I']
  | 0xFB04 => ['F', 'F', 'L']
  | 0xFB05 => ['S', 'T']
  | 0xFB06 => ['S', 'T']
  | _ => [c.toUpper]

def upper (s : List Char) : List Char := s.flatMap upperForm

end DnsFilter.Text
