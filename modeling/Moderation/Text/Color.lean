import Moderation.Text.Split

/-!
Formatting codes: a section sign and a code character. Configuration texts write the sign as an
ampersand.
-/
namespace Moderation.Text

/-- The digits and letters that follow a sign: colours, styles and resets. -/
def isColorCode (c : Char) : Bool :=
  let c := c.toLower
  ('0' ≤ c && c ≤ '9') || ('a' ≤ c && c ≤ 'f') || ('k' ≤ c && c ≤ 'o') || c == 'r' || c == 'x'

/-- A code character up to case folding; the kelvin sign is a case variant of `k`. -/
def isStrippedCode (c : Char) : Bool := isColorCode c || c == '\u212A'

namespace Color

/-- A text without its formatting codes, in one pass: what the pass brings together stays. -/
def strip : List Char → List Char
  | '§' :: c :: r => if isStrippedCode c then strip r else '§' :: strip (c :: r)
  | c :: r => c :: strip r
  | [] => []

/-- A text with each ampersand before a code character turned into a section sign. -/
def translate : List Char → List Char
  | '&' :: c :: r => if isColorCode c then '§' :: c.toLower :: translate r else '&' :: translate (c :: r)
  | c :: r => c :: translate r
  | [] => []

@[simp] theorem strip_nil : strip [] = [] := by rw [strip]
@[simp] theorem translate_nil : translate [] = [] := by rw [translate]

theorem strip_eq_self {cs : List Char} (h : '§' ∉ cs) : strip cs = cs := by
  fun_induction strip cs <;> simp_all

theorem translate_eq_self {cs : List Char} (h : '&' ∉ cs) : translate cs = cs := by
  fun_induction translate cs <;> simp_all

end Color

def stripColors (text : String) : String := .ofList (Color.strip text.toList)

def colorize (text : String) : String := .ofList (Color.translate text.toList)

@[simp] theorem toList_stripColors (text : String) :
    (stripColors text).toList = Color.strip text.toList := by simp [stripColors]

@[simp] theorem toList_colorize (text : String) :
    (colorize text).toList = Color.translate text.toList := by simp [colorize]

end Moderation.Text
