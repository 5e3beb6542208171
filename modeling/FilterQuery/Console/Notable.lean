/-
Notable parts of a printed text.

A terminal with colours would show them in colours: tags between angle brackets, settings of the form
`name=value`, brackets, addresses of networks, calls, the words for truth values, numbers, paths,
texts in quotes and links. The terminal written to here has no colours, but each notable part is still
printed by itself, and so its cells are counted by themselves.
-/
import FilterQuery.Console.Emoji
import FilterQuery.Console.Segments
import FilterQuery.Text.Digit

set_option autoImplicit false

namespace FilterQuery.Console.Notable

open FilterQuery.Text FilterQuery.Text.Regex

/-! ## Characters -/

def word : Regex := .char isWordCharacter
def digit : Regex := .char Char.isDigit
def anyDigit : Regex := .char fun c => (digitValue? c).isSome
def hexDigit : Regex :=
  .char fun c => c.isDigit || ('a' ≤ c && c ≤ 'f') || ('A' ≤ c && c ≤ 'F')

/-- A character of a word or one of some others. -/
def wordOr (others : String) : Regex :=
  .char fun c => isWordCharacter c || others.toList.contains c

def notInWord : Regex := .notAfter isWordCharacter

/-! ## Parts -/

/-- A stretch between the first opening and the last closing angle bracket, with a name in front. -/
def angled : Regex :=
  inOrder [.marked (text "<"), .marked (many (wordOr "-.:|")), .marked (many (.char fun _ => true)),
    .marked (text ">")]

/-- A name, `=` and perhaps a word after it. -/
def setting : Regex :=
  inOrder [.marked (fromTo 1 50 word), text "=",
    perhaps (.marked (inOrder [perhaps (text "\""), several word, perhaps (text "\"")]))]

/-- A bracket. -/
def bracket : Regex := .marked (among "[]\x7b\x7d()")

/-- Four numbers with points between them. -/
def network4 : Regex :=
  let number := fromTo 1 3 digit
  .marked (inOrder [number, text ".", number, text ".", number, text ".", number])

/-- Up to eight numbers with colons between them. -/
def network6 : Regex :=
  let number := fromTo 1 4 hexDigit
  .marked (inOrder [fromTo 1 7 (inOrder [number, text ":", perhaps (text ":")]), number])

/-- The address of a device: `pairs` pairs of digits, or groups of four. -/
def device (pairs groups : Nat) : Regex :=
  let pair := fromTo 1 2 hexDigit
  let group := exactly 4 hexDigit
  let row (n : Nat) (part : Regex) (sign : String) : Regex :=
    inOrder [exactly (n - 1) (inOrder [part, text sign]), part]
  .marked (oneOf [row pairs pair "-", row pairs pair ":", row groups group "."])

/-- A universal identifier. -/
def identifier : Regex :=
  let group (n : Nat) := exactly n hexDigit
  .marked (inOrder [group 8, text "-", group 4, text "-", group 4, text "-", group 4, text "-",
    group 12])

/-- A name before an opening round bracket. -/
def call : Regex :=
  inOrder [.marked (.times 0 none false (wordOr ".")), text "("]

/-- A word by itself. -/
def alone (s : String) : Regex :=
  inOrder [.wordEdge true, .marked (text s), .wordEdge true]

/-- Digits with perhaps a point in or after them. -/
def decimal : Regex :=
  inOrder [several digit, perhaps (text "."), many digit]

/-- An exponent, of which only as many digits are taken as needed unless it is `greedy`. -/
def exponent (greedy : Bool) : Regex :=
  inOrder [text "e", perhaps (among "-+"), .times 1 none greedy anyDigit]

/-- An imaginary number, perhaps with a real one in front. -/
def imaginary : Regex :=
  .marked (inOrder [notInWord, perhaps (text "-"), decimal, perhaps (exponent false),
    perhaps (inOrder [among "-+", decimal, perhaps (exponent true)]), text "j"])

/-- A number. -/
def number : Regex :=
  .marked (oneOf [
    inOrder [notInWord, perhaps (text "-"), decimal, perhaps (exponent false), .wordEdge true],
    inOrder [text "0x", many hexDigit]])

/-- A path and the name of a file at its end. -/
def path : Regex :=
  inOrder [
    .marked (inOrder [.wordEdge false, many (inOrder [text "/", several (wordOr "-._+")]),
      text "/"]),
    perhaps (.marked (many (wordOr "-._+")))]

/-- A text in quotes. -/
def quotation : Regex :=
  let within (quotes : String) : Regex :=
    inOrder [perhaps (text "b"), text quotes, .times 0 none false (.char (· ≠ '\n')),
      .notAfter (· = '\\'), text quotes]
  inOrder [.notAfter fun c => c = '\\' || isWordCharacter c,
    .marked (oneOf [within "'''", within "'", within "\"\"\"", within "\""])]

/-- A link. -/
def link : Regex :=
  let signs := "-$_+!\x60(),.?/;:&=%#~"
  .marked (inOrder [oneOf (["file", "https", "http", "ws", "wss"].map text), text "://",
    many (.char fun c => c.isAlphanum || signs.toList.contains c)])

/-- What is notable by itself. Of several parts that begin at the same place the first one counts. -/
def part : Regex :=
  oneOf [network4, network6, device 8 4, device 6 3, identifier, call, alone "True", alone "False",
    alone "None", .marked (text "..."), imaginary, number, path, quotation, link]

/-- The notable parts of a text. -/
def stretches (s : List Char) : List Stretch :=
  ([angled, setting, bracket, part].flatMap fun r => r.marks s).filter fun t => t.start < t.stop

/-- A text without tags as it is printed, with pictograms for their names. -/
def printed (s : List Char) : Except CutFault String := do
  let s := withoutControls (Emoji.render s)
  printRows (← textRows (stretches s) s)

end FilterQuery.Console.Notable
