namespace Gatehouse.Text

def isBlank (c : Char) : Bool :=
  let n := c.toNat
  (9 ≤ n && n ≤ 13) || n = 0x20 || n = 0x85 || n = 0xA0 || n = 0x1680 ||
    (0x2000 ≤ n && n ≤ 0x200A) || n = 0x2028 || n = 0x2029 || n = 0x202F || n = 0x205F || n = 0x3000

def trimFront (s : List Char) : List Char := s.dropWhile isBlank

def trimBack (s : List Char) : List Char := (s.reverse.dropWhile isBlank).reverse

def trim (s : List Char) : List Char := trimBack (trimFront s)

def trimmed (s : String) : String := String.ofList (trim s.toList)

end Gatehouse.Text
