import FormRules.Rule.Basic
import FormRules.Text.Pattern

namespace FormRules.Rule

open Text

def ofPattern (title : String) (p : Pattern) (message : (field : String) → String) : RuleClass :=
  ofJudgement title fun field v => .onText v (fun s => p.accepts s.toList) (message field)

namespace Email

def nameChar : CharSet := .outside (.union .blank (.among ['@']))

def pattern : Pattern :=
  .inOrder [.plus (.one nameChar), .char '@', .plus (.one nameChar), .char '.',
    .plus (.one nameChar)]

end Email

namespace Password

def specials : List Char := "!@#$%^&*(),.?\":\x7b\x7d|<>".toList

def special : CharSet := .among specials

def allowed : CharSet := .union (.union .asciiLetter .asciiDigit) special

def inLine : Pattern := .many (.one (.outside (.among ['\n'])))

def holding (s : CharSet) : Pattern :=
  .inOrder [inLine, .one s, .many (.one (.outside (.among [])))]

def pattern : Pattern :=
  .both (holding .asciiLetter) (.both (holding .asciiDigit)
    (.both (holding special) (.atLeast 8 (.one allowed))))

end Password

namespace Locator

def scheme : Pattern :=
  .inOrder [.one .letter,
    .many (.one (.union (.union .letter .asciiDigit) (.among ['+', '.', '-']))),
    .text "://".toList]

def user : Pattern :=
  .inOrder [.plus (.one (.outside (.union .blank (.among [':', '@', '/'])))),
    .opt (.inOrder [.char ':', .many (.one (.outside (.union .blank (.among ['@', '/']))))]),
    .char '@']

def letterOrDigit : CharSet := .union .letter .asciiDigit

def label : Pattern :=
  .inOrder [.one letterOrDigit,
    .opt (.inOrder [.upTo 61 (.one (.union letterOrDigit (.among ['-']))), .one letterOrDigit])]

def domain : Pattern :=
  .inOrder [.plus (.inOrder [label, .char '.']), .between 2 63 (.one .letter)]

def address : Pattern :=
  .inOrder [.between 1 3 (.one .digit), .times 3 (.inOrder [.char '.', .between 1 3 (.one .digit)])]

def host : Pattern := .either (.word "localhost".toList) (.either domain address)

def port : Pattern := .inOrder [.char ':', .between 1 5 (.one .digit)]

def tail : Pattern :=
  .inOrder [.one (.among ['/', '?', '#']), .many (.one (.outside .blank))]

def pattern : Pattern :=
  .inOrder [.opt scheme, .opt user, host, .opt port, .opt tail]

end Locator

def email : RuleClass :=
  ofPattern "EmailRule" Email.pattern fun field => "Invalid email address for " ++ field

def password : RuleClass :=
  ofPattern "PasswordRule" Password.pattern fun field =>
    field ++ " must be at least 8 characters long, contain letters, numbers, " ++
      "and at least one special character"

def locator : RuleClass :=
  ofPattern "UrlRule" Locator.pattern fun field => field ++ " must be a valid URL"

end FormRules.Rule
