import SshTunnel.Environment
import SshTunnel.Key.Library
import SshTunnel.Logging
import SshTunnel.Text.Lower

/-!
# Key candidates

A candidate is the path of a private key that may be there. It is loaded, skipped because
nothing can be read, or invalid because what is read is no usable key. A scan goes through
candidates in order and reports the invalid ones.
-/

namespace SshTunnel.Auth

/-- What became of a candidate. -/
inductive Outcome where
  | loaded (key : PublicKey)
  | skipped
  | invalid (error : Report)

/-- The word for an outcome. -/
def Outcome.word : Outcome → Text
  | loaded _ => "loaded".toList
  | skipped => "skipped".toList
  | invalid _ => "invalid".toList

/-- A candidate that has been tried: the path as listed, the path that was read, and what
became of it. -/
structure Candidate where
  listed : Text
  path : Text
  outcome : Outcome

/-- The reason for a message, by the words in it. -/
def reasonFor (message : Text) : Text :=
  let m := Text.lower message
  if Text.hasPart "passphrase".toList m || Text.hasPart "decrypt".toList m then
    "encrypted".toList
  else if Text.hasPart "format".toList m || Text.hasPart "invalid".toList m then
    "invalid_format".toList
  else "import_error".toList

/-- The report on a candidate that cannot be read as a key. -/
def keyReport (listed path : Text) (problem : Key.Problem) : Except Misuse Report :=
  (Report.keyLoad
    (.text ("Unable to parse private key ".toList ++ listed ++ ": ".toList ++ problem.message))
    (.text path) (.text (reasonFor problem.message))
    { Context.empty with underlying := .text problem.message }).outcome

/-- Judges the content of the file that a candidate names. -/
def judge (lib : Key.Library) (listed path : Text) (content : Bytes) : Except Failure Outcome :=
  match lib.importPrivate content with
  | .ok key => .ok (.loaded key)
  | .error problem =>
      if problem.isStray then .error (.badKey problem)
      else
        match keyReport listed path problem with
        | .ok report => .ok (.invalid report)
        | .error e => .error (.misuse e)

/-- Tries a candidate, with `~` for the home directory. -/
def load (lib : Key.Library) (files : Files.Tree) (home listed : Text) : Except Failure Candidate :=
  let path := Path.fillHome home listed
  if path.isEmpty then .ok ⟨listed, path, .skipped⟩
  else
    let name := (Path.ofText path).text
    if name.contains Files.nul then .error (.badPath ⟨⟩)
    else
      match files.read name with
      | .error _ => .ok ⟨listed, path, .skipped⟩
      | .ok content => (judge lib listed path content).map fun outcome => ⟨listed, path, outcome⟩

/-- What a scan says about a candidate. -/
def Candidate.message? (c : Candidate) : Option Log.Message :=
  match c.outcome with
  | .loaded _ => none
  | .skipped => some ⟨.debug, "Skipping key candidate %r".toList, [.text c.listed]⟩
  | .invalid report => some ⟨.warning, "%s".toList, [.text report.message]⟩

/-- The key of a candidate that was loaded. -/
def Candidate.key? (c : Candidate) : Option PublicKey :=
  match c.outcome with
  | .loaded key => some key
  | _ => none

/-- The keys of the candidates that were loaded, in order. -/
def scan (lib : Key.Library) (files : Files.Tree) (home : Text) :
    List Text → Logging (List PublicKey)
  | [] => return []
  | listed :: rest => do
      let c ← load lib files home listed
      Logging.tellAny c.message?
      let keys ← scan lib files home rest
      return c.key?.toList ++ keys

end SshTunnel.Auth
