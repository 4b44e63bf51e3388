/-
TreeTemplate.Partial.Error — why a partial cannot be loaded.

* `SystemFault` — what the file system says, with its number. Those on which
  something hangs have a name; for all others there is `OtherFault`.
* `LoadError` — all causes. `LoadError.isMiss` tells the two that mean that
  a loader does not have the partial, so that another may be asked.
-/
import TreeTemplate.Text.Undecoded
import TreeTemplate.Web.Url

namespace TreeTemplate

/-- A fault of the file system that has no name here, such as the want of a
permission or of room. Its number tells it from those that have one. -/
structure OtherFault where
  number : Nat
  message : Text
  isOther : number ∉ [2, 17, 20, 21, 36]
deriving DecidableEq

/-- What the file system says of a path. -/
inductive SystemFault where
  | notFound
  | exists
  | notDirectory
  | isDirectory
  | nameTooLong
  | other (fault : OtherFault)
deriving DecidableEq

namespace SystemFault

/-- The number of a fault. -/
def number : SystemFault → Nat
  | notFound => 2
  | «exists» => 17
  | notDirectory => 20
  | isDirectory => 21
  | nameTooLong => 36
  | other fault => fault.number

/-- The words for a fault. -/
def message : SystemFault → Text
  | notFound => "No such file or directory"
  | «exists» => "File exists"
  | notDirectory => "Not a directory"
  | isDirectory => "Is a directory"
  | nameTooLong => "File name too long"
  | other fault => fault.message

/-- The fault with a number, in its own words if it has no name. -/
def ofNumber (number : Nat) (message : Text) : SystemFault :=
  if h : number ∉ [2, 17, 20, 21, 36] then other ⟨number, message, h⟩
  else if number = 2 then notFound
  else if number = 17 then «exists»
  else if number = 20 then notDirectory
  else if number = 21 then isDirectory
  else nameTooLong

/-- The number of a fault and the words for it. -/
def numbered (fault : SystemFault) : Text :=
  ("[Errno " : Text) ++ Text.ofNat fault.number ++ ("] " : Text) ++ fault.message

/-- The words for a fault at a path. -/
def messageAt (fault : SystemFault) (path : Text) : Text :=
  fault.numbered ++ (": " : Text) ++ path.quoted

end SystemFault

/-- Why a partial cannot be loaded. -/
inductive LoadError where
  /-- A store of partials has none under the name. -/
  | absent (name : Text)
  /-- The file system refuses a path. -/
  | system (fault : SystemFault) (path : Text)
  /-- The file system fails while a file is open. -/
  | interrupted (fault : SystemFault)
  /-- A file holds bytes that are no UTF-8. -/
  | undecoded (undecoded : Undecoded)
  /-- The name leads out of the directory of partials. -/
  | outside (name : Text)
  /-- The name leads to a file or a directory that is hidden. -/
  | hidden (name : Text)
  /-- The name holds the character that no path can hold. -/
  | nullByte
  /-- A server answers with a status that is no success. -/
  | status (code : Int)
  /-- A server cannot be asked, for a reason with a name. -/
  | unreachable (reason words : Text)
  /-- There is nothing at the address of the partial. -/
  | address (error : UrlError)
  /-- A path, or what a server would answer, has no bytes. -/
  | unspelled (unspelled : Unspelled)
  /-- A cache would keep the partial for a time that cannot be counted. -/
  | uncountable
  /-- A loader that always fails does so, in its own words. -/
  | refused (missing : Bool) (reason words : Text)
deriving DecidableEq

namespace LoadError

/-- Whether the error says no more than that the partial is not there. -/
def isMiss : LoadError → Bool
  | absent _ => true
  | system fault _ => fault = .notFound
  | interrupted fault => fault = .notFound
  | refused missing _ _ => missing
  | _ => false

/-- The words for an error. -/
def message : LoadError → Text
  | .absent name => ("Partial not found: " : Text) ++ name
  | .system fault path => fault.messageAt path
  | .interrupted fault => fault.numbered
  | .undecoded row => row.message
  | .outside name => ("Partial path escapes template directory: " : Text) ++ name
  | .hidden name => ("Hidden files are not served as partials: " : Text) ++ name
  | .nullByte => "embedded null byte"
  | .status code => ("HTTP status " : Text) ++ Text.ofInt code
  | .unreachable _ words => words
  | .address error => error.message
  | .unspelled row => row.message
  | .uncountable => "int too large to convert to float"
  | .refused _ _ words => words

end LoadError

end TreeTemplate
