import GitvTime.Source.StringHandle

/-!
# The cleaning patterns

`utils/Patterns.java` and the cleaning functions of `utils/StringHandle.java` in
the launcher and viscosity modules. Every call replaces by the empty text. The
classes `Cf`, `Co` and `Cn` depend on the Unicode version of the JDK and are a
parameter; their first character is the soft hyphen.
-/
namespace GitvTime.Source.Patterns
open GitvTime.Source.StringHandle

/-- `Pattern.compile("|")` is no bar: it is the alternation of two empty patterns
and finds the empty text at every position. -/
inductive Pattern where
  | oneOf (chars : Char → Bool)
  | emptyOrEmpty

/-- `pattern.matcher(source).replaceAll("")`. -/
def Pattern.removeFrom : Pattern → String → String
  | .oneOf chars, source => String.ofList (source.toList.filter fun c => !chars c)
  | .emptyOrEmpty, source => source

/-- `Cc`. -/
def isControl (c : Char) : Bool := c.toNat ≤ 0x1F || (0x7F ≤ c.toNat && c.toNat ≤ 0x9F)

/-- `Zs`, `Zl` and `Zp` of Java 8; later U+180E is no separator but a `Cf`. -/
def isSeparator (c : Char) : Bool :=
  let n := c.toNat
  n == 0x20 || n == 0xA0 || n == 0x1680 || n == 0x180E || (0x2000 ≤ n && n ≤ 0x200A) ||
    n == 0x2028 || n == 0x2029 || n == 0x202F || n == 0x205F || n == 0x3000

section
variable (otherC : Char → Bool)

/-- `[\p{C}\p{Z}]`. -/
def noSee (c : Char) : Bool := isControl c || isSeparator c || (0xAD ≤ c.toNat && otherC c)

/-- `NO_SEE_PATTERN`. -/
def noSeePattern : Pattern := .oneOf (noSee otherC)

/-- `PT = Pattern.compile(LOGBEAN_SEPARATOR)`. -/
def pt : Pattern := .emptyOrEmpty

/-- `getPrintStringAndReplaceAll` with the empty replacement. -/
def getPrintStringAndReplaceAll (content : Option String) (pattern : Pattern) : Option String :=
  content.map fun content => pattern.removeFrom ((noSeePattern otherC).removeFrom content)

end

/-- `equalsIgnoreCase("null")`: no other letters than these fold to them. -/
def equalsIgnoreCaseNull (field : String) : Bool :=
  match field.toList with
  | [n, u, l, l'] =>
    (n == 'n' || n == 'N') && (u == 'u' || u == 'U') && (l == 'l' || l == 'L') &&
      (l' == 'l' || l' == 'L')
  | _ => false

/-- `isLegalField` of one field; null is blank. -/
def isLegal (field : Option String) : Bool :=
  !(field.elim true equalsIgnoreCaseNull) && !isBlank field

def isLegalField (fields : List (Option String)) : Bool := fields.all isLegal

/-- The separator is a visible character. -/
theorem noSee_bar (otherC : Char → Bool) : noSee otherC '|' = false := by
  simp [noSee, isControl, isSeparator]

/-- Cleaning with `PT` removes no separator. -/
theorem barFree_clean (otherC : Char → Bool) (content : String) :
    BarFree (pt.removeFrom ((noSeePattern otherC).removeFrom content)) ↔ BarFree content := by
  simp [BarFree, pt, noSeePattern, Pattern.removeFrom, noSee_bar]

end GitvTime.Source.Patterns
