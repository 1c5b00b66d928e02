import Mandate.Pattern
import Mandate.Sensitive.Luhn
import Mandate.Text.Blank
import Mandate.Text.LetterCase
import Mandate.Text.Word

/-!
# Sensitive data

Finds what must not pass a gate unseen: identity numbers, access keys, credentials, private keys,
payment cards and bearer tokens. Only where a hit lies is kept, never its text.
-/

namespace Mandate

/-- What kind of sensitive data a hit is. -/
inductive SensitiveKind where
  | identityNumber
  | awsAccessKey
  | credential
  | privateKey
  | paymentCard
  | bearerToken
deriving DecidableEq

/-- A hit, from its first byte up to and without its last. -/
structure SensitiveMatch where
  kind : SensitiveKind
  start : Nat
  stop : Nat
deriving DecidableEq

namespace SensitiveKind

def all : List SensitiveKind :=
  [.identityNumber, .awsAccessKey, .credential, .privateKey, .paymentCard, .bearerToken]

def name : SensitiveKind → String
  | .identityNumber => "identity_number"
  | .awsAccessKey => "aws_access_key"
  | .credential => "credential"
  | .privateKey => "private_key"
  | .paymentCard => "payment_card"
  | .bearerToken => "bearer_token"

/-- How a message shows a kind. -/
def label : SensitiveKind → String
  | .identityNumber => "IdentityNumber"
  | .awsAccessKey => "AwsAccessKey"
  | .credential => "Credential"
  | .privateKey => "PrivateKey"
  | .paymentCard => "PaymentCard"
  | .bearerToken => "BearerToken"

end SensitiveKind

namespace Sensitive

open Pattern

/-! ## Patterns -/

def wordBorder : Pattern :=
  border Text.isWord

/-- A decimal digit of any script. -/
def digit : Pattern :=
  one Text.isDecimalDigit

def blank : Pattern :=
  one Text.isBlank

/-- A small letter in either case. -/
def letter (c : Char) : Pattern :=
  one (Text.matchesFolded c)

/-- A word in either letter case. -/
def word (s : String) : Pattern :=
  Pattern.all (s.toList.map letter)

/-- Any number of times. -/
def many (least : Nat) (p : Pattern) : Pattern :=
  times least none p

/-- Exactly so many times. -/
def exactlyTimes (n : Nat) (p : Pattern) : Pattern :=
  times n (some 0) p

/-- Three, two and four digits. -/
def identityNumber : Pattern :=
  Pattern.all [wordBorder, exactlyTimes 3 digit, Pattern.char '-', exactlyTimes 2 digit,
    Pattern.char '-', exactlyTimes 4 digit, wordBorder]

/-- Whether the character is an ASCII capital. -/
def isCapital (c : Char) : Bool :=
  'A' ≤ c && c ≤ 'Z'

/-- Whether the character is an ASCII capital or digit. -/
def isKeyCharacter (c : Char) : Bool :=
  isCapital c || c.isDigit

/-- A fixed beginning and sixteen capitals or digits. -/
def awsAccessKey : Pattern :=
  Pattern.all [wordBorder, literal "AKIA", exactlyTimes 16 (one isKeyCharacter), wordBorder]

/-- Two words that may be joined by a mark. -/
def joined (first second : String) : Pattern :=
  Pattern.all [word first, optional (one fun c => c == '_' || c == '-'), word second]

def isQuote (c : Char) : Bool :=
  c == '\x27' || c == '"'

/-- A word for a secret, a colon or equals sign, and at least four characters of a value. -/
def credential : Pattern :=
  Pattern.all
    [wordBorder,
      Pattern.any (word "password")
        [word "passwd", word "secret", joined "api" "key", word "private_key",
          joined "access" "token"],
      many 0 blank, one (fun c => c == ':' || c == '='), many 0 blank, optional (one isQuote),
      many 4 (one fun c => !(Text.isBlank c || isQuote c))]

def privateKey : Pattern :=
  Pattern.all
    [literal "-----BEGIN ", optional (seq (many 1 (one isCapital)) (Pattern.char ' ')),
      literal "PRIVATE KEY-----"]

/-- Thirteen to nineteen digits, each but the last perhaps followed by a blank or hyphen. -/
def paymentCard : Pattern :=
  Pattern.all
    [wordBorder,
      times 12 (some 6) (seq digit (optional (one fun c => c == ' ' || c == '-'))), digit,
      wordBorder]

/-- Whether the character may be part of a bearer token; letter case does not count. -/
def isTokenCharacter (c : Char) : Bool :=
  c.isAlphanum || c == '-' || c == '.' || c == '_' || c == '~' || c == '+' || c == '/' || c == 'ſ'
    || c == '\u212a'

/-- The word bearer and at least sixteen characters of a token. -/
def bearerToken : Pattern :=
  Pattern.all
    [wordBorder, word "bearer", many 1 blank, many 16 (one isTokenCharacter),
      many 0 (Pattern.char '=')]

def pattern : SensitiveKind → Pattern
  | .identityNumber => identityNumber
  | .awsAccessKey => awsAccessKey
  | .credential => credential
  | .privateKey => privateKey
  | .paymentCard => paymentCard
  | .bearerToken => bearerToken

/-! ## Scanning -/

def byteLength (cs : List Char) : Nat :=
  (String.ofList cs).utf8ByteSize

def slice (b e : Cursor) : List Char :=
  b.after.take (b.after.length - e.after.length)

/-- Whether a stretch counts as a hit: a payment card has to have a valid check digit. -/
def isHit (kind : SensitiveKind) (b e : Cursor) : Bool :=
  kind ≠ .paymentCard || Luhn.isValid (slice b e)

/-- The hits of one kind, from left to right. -/
def hits (kind : SensitiveKind) (cs : List Char) : List SensitiveMatch :=
  (((pattern kind).findAll cs).filter fun m => isHit kind m.1 m.2).map fun m =>
    ⟨kind, byteLength m.1.before, byteLength m.2.before⟩

/-- The hits in a text, in order of where they begin, and of kinds where that is the same. -/
def scan (content : String) : List SensitiveMatch :=
  let cs := content.toList
  (SensitiveKind.all.flatMap fun k => hits k cs).mergeSort fun a b => a.start ≤ b.start

end Sensitive
end Mandate
