import Remit.Text.Quoted

/-!
# The address of the execution subsystem

A base address and a path below it give the address that a request goes to (`Address.below`). The
scheme and the host are in lower case, the number of a service is left out where the scheme implies
it, and characters that an address cannot hold are written as their bytes.
-/

namespace Remit.Address

/-- Splits a text at the first place where a word stands. -/
def splitAt? (word : List Char) : List Char → Option (List Char × List Char)
  | [] => none
  | c :: cs =>
    if word.isPrefixOf (c :: cs) then some ([], (c :: cs).drop word.length)
    else (splitAt? word cs).map fun r => (c :: r.1, r.2)

/-- The number of the service that a scheme implies, which needs no mention. -/
def impliedNumber : List Char → Option (List Char)
  | ['h', 't', 't', 'p'] => some ['8', '0']
  | ['h', 't', 't', 'p', 's'] => some ['4', '4', '3']
  | ['w', 's'] => some ['8', '0']
  | ['w', 's', 's'] => some ['4', '4', '3']
  | ['f', 't', 'p'] => some ['2', '1']
  | _ => none

/-- A host with the number of its service, in lower case and without a number that the scheme
implies. -/
def hostText (scheme host : List Char) : List Char :=
  let host := host.map Char.toLower
  match splitAt? [':'] host.reverse with
  | some (number, name) =>
    let implied := number.isEmpty || impliedNumber scheme == some number.reverse
    if number.all Char.isDigit && implied then name.reverse else host
  | none => host

/-- The bytes of a character, each as a percent sign and two digits of base sixteen. -/
def escape (c : Char) : List Char :=
  (String.singleton c).toUTF8.toList.flatMap fun b => '%' :: (Text.hex 2 b.toNat).map Char.toUpper

/-- A character of a path; blanks, quotes, brackets and what is not ASCII are escaped. -/
def pathChar (c : Char) : List Char :=
  let barred := ['"', '<', '>', '`', '\x7b', '\x7d']
  if c.toNat ≤ 0x20 || 0x7F ≤ c.toNat || barred.contains c then escape c else [c]

/-- An address with its parts in their usual form. -/
def normal (cs : List Char) : List Char :=
  match splitAt? [':', '/', '/'] cs with
  | none => cs.flatMap pathChar
  | some (scheme, rest) =>
    let scheme := scheme.map Char.toLower
    let host := rest.takeWhile (· != '/')
    scheme ++ [':', '/', '/'] ++ hostText scheme host ++
      (rest.dropWhile (· != '/')).flatMap pathChar

/-- The address of a path below a base address, with exactly one slash between them. -/
def below (base path : String) : String :=
  let base := if base.toList.getLast? = some '/' then base.toList else base.toList ++ ['/']
  String.ofList (normal (base ++ path.toList))

end Remit.Address
