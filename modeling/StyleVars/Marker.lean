import StyleVars.Text.WhiteSpace
import StyleVars.Text.Basic

/-
  The marker declaration that carries a session's payload through the compiler. A session token
  names the session; its marker property is looked up literally in the compiled text, and the
  declaration counts only when it is complete: property, colon, a quoted string in which a
  backslash takes the next character along, and a closing `;` or brace, with any white space in
  between. The first complete declaration from the left wins.
-/

namespace StyleVars

/-- What every session token starts with. -/
def tokenHead : Text := "sass-vars-".toList

/-- How many hexadecimal digits a session token ends with. -/
def tokenDigits : Nat := 32

/-- A lower-case hexadecimal digit. -/
def isTokenDigit (c : Char) : Bool := c.isDigit || ('a' ≤ c && c ≤ 'f')

/-- Has the text the shape of a session token? -/
def isSessionToken (t : Text) : Bool :=
  match Text.stripPrefix? tokenHead t with
  | some ds => ds.length == tokenDigits && ds.all isTokenDigit
  | none => false

/-- The session token with this number; numbers of at most 32 hexadecimal
digits have different tokens. -/
def sessionToken (n : Nat) : Text := tokenHead ++ Text.hex tokenDigits (n % Nat.pow 16 tokenDigits)

namespace Marker

/-- What the marker property starts with. -/
def propertyHead : Text := "json-".toList

/-- What the marker property ends with. -/
def propertyTail : Text := "-content".toList

/-- The property that the payload of a session is declared under. -/
def property (token : Text) : Text := propertyHead ++ token ++ propertyTail

/-- The rest of a quoted string: its raw content up to the closing quote, and what follows. -/
def quotedRest (quote : Char) : Text → Option (Text × Text)
  | [] => none
  | '\\' :: c :: r => (quotedRest quote r).map fun (s, r) => ('\\' :: c :: s, r)
  | c :: r =>
    if c = quote then some ([], r)
    else if c = '\\' then none
    else (quotedRest quote r).map fun (s, r) => (c :: s, r)

/-- A quoted string of either kind: its raw content, and what follows. -/
def quotedString : Text → Option (Text × Text)
  | '\'' :: r => quotedRest '\'' r
  | '"' :: r => quotedRest '"' r
  | _ => none

/-- Does the text go on, after white space, with the end of a declaration? -/
def endsDeclaration (t : Text) : Bool :=
  match Text.dropWhiteSpace t with
  | ';' :: _ => true
  | '\x7d' :: _ => true
  | _ => false

/-- The raw string of the complete declaration of this property at the start of a text. -/
def declaration? (property t : Text) : Option Text :=
  match (Text.stripPrefix? property t).map Text.dropWhiteSpace with
  | some (':' :: r) =>
    match quotedString (Text.dropWhiteSpace r) with
    | some (raw, r) => if endsDeclaration r then some raw else none
    | none => none
  | _ => none

/-- The raw string of the first complete declaration of this property in a text. -/
def find? (property : Text) : Text → Option Text
  | [] => declaration? property []
  | c :: r => (declaration? property (c :: r)).or (find? property r)

end Marker
end StyleVars
