import Mathlib.Data.List.DropRight

/-!
# URL references without a scheme

The part of the URL standard's parser that decides the origin of a reference which names no scheme, against a base whose
scheme is special (as `https` is).  Such a parser drops tabs and newlines wherever they are and reads a backslash as a
slash; a reference names an authority exactly if it starts with two slashes then, and otherwise has the base's origin.
What a host is, is left to the host parser.
-/

namespace Url

/-- A tuple origin. -/
structure Origin (η : Type) where
  scheme : String
  host : η
  port : Option Nat
  deriving DecidableEq

def isC0ControlOrSpace (c : Char) : Bool := c.toNat ≤ 32

def isTabOrNewline (c : Char) : Bool := c == '\t' || c == '\n' || c == '\r'

/-- A slash, as a parser with a special scheme reads it. -/
def isSlash (c : Char) : Bool := c == '/' || c == '\\'

def endsAuthority (c : Char) : Bool := isSlash c || c == '?' || c == '#'

/-- The input as the parser prepares it: without control characters and spaces at the ends, and without tabs and
newlines. -/
def prepare (text : String) : List Char :=
  ((text.toList.dropWhile isC0ControlOrSpace).rdropWhile isC0ControlOrSpace).filter fun c => !isTabOrNewline c

/-- The text of the authority that a reference names, if it names one. -/
def authorityText? (text : String) : Option (List Char) :=
  match prepare text with
  | c :: d :: rest =>
    if isSlash c && isSlash d then some ((rest.dropWhile isSlash).takeWhile fun e => !endsAuthority e) else none
  | _ => none

/-! ### Authorities -/

/-- What follows the credentials; nothing may not. -/
def afterCredentials (authority : List Char) : Option (List Char) :=
  if '@' ∈ authority then
    let rest := authority.rtakeWhile (· != '@')
    if rest = [] then none else some rest
  else
    some authority

/-- The host and the port, parted at the first colon outside brackets. -/
def splitPort : Bool → List Char → List Char × List Char
  | _, [] => ([], [])
  | insideBrackets, c :: rest =>
    if c = ':' ∧ ¬insideBrackets then
      ([], rest)
    else
      let (host, port) := splitPort (if c = '[' then true else if c = ']' then false else insideBrackets) rest
      (c :: host, port)

def defaultPort (scheme : String) : Option Nat :=
  if scheme = "http" ∨ scheme = "ws" then some 80
  else if scheme = "https" ∨ scheme = "wss" then some 443
  else if scheme = "ftp" then some 21
  else none

/-- A port: absent, the default one, or another one below 65536; `none` is a failure. -/
def parsePort (scheme : String) (digits : List Char) : Option (Option Nat) :=
  if digits = [] then some none
  else if ¬digits.all (fun c => '0' ≤ c && c ≤ '9') then none
  else
    let port := digits.foldl (fun n c => n * 10 + (c.toNat - 48)) 0
    if 65535 < port then none else if defaultPort scheme = some port then some none else some (some port)

section

variable {η : Type} (parseHost : List Char → Option η)

/-- The origin of an authority; `none` if it is no valid one. -/
def authorityOrigin (scheme : String) (authority : List Char) : Option (Origin η) := do
  let hostAndPort ← afterCredentials authority
  let (host, port) := splitPort false hostAndPort
  if host = [] then
    none
  else
    let host ← parseHost host
    let port ← parsePort scheme port
    return ⟨scheme, host, port⟩

/-- The origin of a reference; `none` if the reference is no URL. -/
def referenceOrigin (base : Origin η) (text : String) : Option (Origin η) :=
  match authorityText? text with
  | some authority => authorityOrigin parseHost base.scheme authority
  | none => some base

/-- Whatever URL a reference is, it has the origin of its base. -/
def StaysOnSite (base : Origin η) (text : String) : Prop :=
  ∀ origin, referenceOrigin parseHost base text = some origin → origin = base

variable {parseHost} {base : Origin η} {text : String}

theorem staysOnSite_of_path (h : authorityText? text = none) : StaysOnSite parseHost base text := by
  intro origin horigin
  unfold referenceOrigin at horigin
  rw [h] at horigin
  exact (Option.some.inj horigin).symm

/-- A reference stays on the site if and only if the authority it names, if any, is that of the site or none at all. -/
theorem staysOnSite_iff :
    StaysOnSite parseHost base text ↔
      ∀ authority, authorityText? text = some authority →
        ∀ origin, authorityOrigin parseHost base.scheme authority = some origin → origin = base := by
  constructor
  · intro h authority hauthority origin horigin
    refine h origin ?_
    unfold referenceOrigin
    rw [hauthority]
    exact horigin
  · intro h
    cases hauthority : authorityText? text with
    | none => exact staysOnSite_of_path hauthority
    | some authority =>
      intro origin horigin
      unfold referenceOrigin at horigin
      rw [hauthority] at horigin
      exact h authority hauthority origin horigin

end

end Url
