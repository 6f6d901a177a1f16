import Mathlib.Tactic.Common
import Bankos.Infra.Env

/-!
# Validators

`identity/src/modules/auth/validators`. A pattern is tested on the characters of the string;
lengths count UTF-16 code units as the language does.
-/

namespace Bankos

/-- The class `\s` of the regular expressions. -/
def isSpace (c : Char) : Bool :=
  let n := c.toNat
  (9 ≤ n && n ≤ 13) || n = 0x20 || n = 0xA0 || n = 0x1680 || (0x2000 ≤ n && n ≤ 0x200A) ||
    n = 0x2028 || n = 0x2029 || n = 0x202F || n = 0x205F || n = 0x3000 || n = 0xFEFF

/-- `password.length`. -/
def utf16Length (s : String) : Nat :=
  (s.toList.map fun c ↦ if 0x10000 ≤ c.toNat then 2 else 1).sum

namespace EmailValidator

/-- `EmailValidator.ts:2–4`. -/
def normalize (env : Env) (email : String) : String := env.toLowerCase (env.trim email)

/-- The class `[^\s@]`. -/
def plain (c : Char) : Bool := !isSpace c && c ≠ '@'

/-- `EmailValidator.ts:6–9`: plain characters, `@`, and plain characters with a dot that is
neither the first nor the last of them. -/
def isValid (email : String) : Bool :=
  match email.toList.dropWhile plain with
  | '@' :: domain =>
    !(email.toList.takeWhile plain).isEmpty && domain.all plain &&
      (domain.drop 1).dropLast.contains '.'
  | _ => false

end EmailValidator

namespace PasswordPolicy

/-- `PasswordPolicy.ts:2–9`. -/
def validate (password : String) : Bool :=
  if utf16Length password < 12 then false
  else if !password.toList.any Char.isUpper then false
  else if !password.toList.any Char.isLower then false
  else if !password.toList.any Char.isDigit then false
  else password.toList.any fun c ↦ !c.isAlphanum

end PasswordPolicy
end Bankos
