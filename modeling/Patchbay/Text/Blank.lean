namespace Patchbay.Text

/-- The characters with the Unicode property `White_Space`. -/
def isBlank (c : Char) : Bool :=
  let n := c.toNat
  (0x09 ≤ n && n ≤ 0x0D) || n == 0x20 || n == 0x85 || n == 0xA0 || n == 0x1680
    || (0x2000 ≤ n && n ≤ 0x200A) || n == 0x2028 || n == 0x2029 || n == 0x202F || n == 0x205F
    || n == 0x3000

def dropBlanks (text : List Char) : List Char :=
  text.dropWhile isBlank

def dropTrailing (drops : Char → Bool) (text : List Char) : List Char :=
  (text.reverse.dropWhile drops).reverse

def dropTrailingBlanks (text : List Char) : List Char :=
  dropTrailing isBlank text

def trimChars (text : List Char) : List Char :=
  dropTrailingBlanks (dropBlanks text)

def trim (text : String) : String :=
  String.ofList (trimChars text.toList)

def allBlank (text : List Char) : Bool :=
  text.all isBlank

def words (text : List Char) : List (List Char) :=
  (text.splitOnP isBlank).filter fun word => !word.isEmpty

/-- A line that ended in a line feed loses one carriage return before it. -/
def dropCarriageReturn (line : List Char) : List Char :=
  if line.getLast? = some '\r' then line.dropLast else line

/-- The lines of a text. A line feed ends a line, so text that ends in one has no empty
line after it. -/
def lines (text : List Char) : List (List Char) :=
  let pieces := text.splitOn '\n'
  pieces.dropLast.map dropCarriageReturn ++ pieces.getLast?.toList.filter fun line => !line.isEmpty

def contains (needle : List Char) : List Char → Bool
  | [] => needle.isEmpty
  | c :: rest => needle.isPrefixOf (c :: rest) || contains needle rest

def lowerAscii (text : String) : String :=
  String.ofList (text.toList.map Char.toLower)

end Patchbay.Text
