import DccCua.Text

/-! # Recording output directories

`validate_recording_output_dir` reads only the text of a path; `validate_recording_output_location`
also asks the file system for every ancestor. The path rules are those of `std::path` on each
platform, and the file system is given by its answers to `symlink_metadata`. -/

namespace DccCua

/-- The platforms whose path rules differ (`cfg(windows)` and `cfg(not(windows))`). -/
inductive Platform where
  | windows | unix
  deriving DecidableEq, Repr

/-- `std::path::Component`. Only the disk kind of a Windows path root is told apart: every other kind
    is refused before its components matter. -/
inductive PathComponent where
  | disk (letter : Char)
  | rootDir
  | curDir
  | parentDir
  | normal (name : String)
  deriving DecidableEq, Repr

namespace Platform

def isSeparator : Platform → Char → Bool
  | .windows, c => c == '/' || c == '\\'
  | .unix, c => c == '/'

/-- The drive letter of a path such as `C:\dir`, and what follows the colon. -/
def disk? : Platform → List Char → Option (Char × List Char)
  | .windows, letter :: ':' :: rest => if letter.isAlpha then some (letter, rest) else none
  | _, _ => none

/-- The components of the part of a path after its drive letter. Empty parts and `.` are dropped, but a
    leading `.` of a path without a root stays. -/
def bodyComponents (p : Platform) (body : List Char) : List PathComponent :=
  let rooted := body.head?.any p.isSeparator
  let parts := (body.splitOnP p.isSeparator).filter (· ≠ [])
  let parts := match parts with
    | ['.'] :: rest => if rooted then rest.filter (· ≠ ['.']) else ['.'] :: rest.filter (· ≠ ['.'])
    | parts => parts.filter (· ≠ ['.'])
  (if rooted then [.rootDir] else []) ++ parts.map fun part =>
    if part = ['.'] then .curDir else if part = ['.', '.'] then .parentDir else .normal (String.ofList part)

def components (p : Platform) (path : String) : List PathComponent :=
  match p.disk? path.toList with
  | some (letter, rest) => .disk letter :: p.bodyComponents rest
  | none => p.bodyComponents path.toList

/-- `Path::is_absolute`: a root on Unix; a drive and a root on Windows. -/
def isAbsolute (p : Platform) (path : String) : Bool :=
  match p, p.disk? path.toList with
  | .windows, some (_, rest) => rest.head?.any Platform.windows.isSeparator
  | .windows, none => false
  | .unix, _ => path.toList.head? == some '/'

/-- `ordinary_root`: on Windows the path starts with a drive letter. -/
def ordinaryRoot (p : Platform) (path : String) : Bool :=
  match p with
  | .windows => (p.disk? path.toList).isSome
  | .unix => true

end Platform

/-- `Path::ancestors`: the path and its parents; a root and a drive have no parent. -/
def ancestors : List PathComponent → List (List PathComponent)
  | path => go path.length path
where
  go : Nat → List PathComponent → List (List PathComponent)
    | 0, path => [path]
    | n + 1, path =>
      match path.getLast? with
      | some (.normal _) | some .curDir | some .parentDir => path :: go n path.dropLast
      | _ => [path]

/-- What `symlink_metadata` says about a path. `reparse` is `is_symlink` on Unix and the reparse
    attribute on Windows. -/
structure Metadata where
  isDir : Bool
  reparse : Bool
  deriving DecidableEq, Repr

/-- The file system, as `symlink_metadata` answers; `none` is an I/O error. -/
abbrev FileSystem := List PathComponent → Option Metadata

/-- `HostProtocolErrorCode`, as far as the task authorization uses it. -/
inductive HostProtocolErrorCode where
  | taskAuthorizationRequired | taskAuthorizationDenied | taskAuthorizationExpired | taskAuthorizationRevoked
  deriving DecidableEq, Repr

/-- `HostError`, as far as the task authorization uses it. -/
inductive HostError where
  | protocol (message : String)
  | codedProtocol (code : HostProtocolErrorCode) (message : String)
  deriving DecidableEq, Repr

/-- A name that `validate_recording_output_dir` refuses: an alternate stream, or a trailing `.` or
    blank that Windows drops. -/
def refusedName (name : String) : Bool :=
  name.toList.contains ':' || name.toList.getLast? == some '.' || name.toList.getLast? == some ' '

def validateRecordingOutputDir (p : Platform) (value : String) : Except HostError Unit :=
  if value == "" || value != Text.trim value || 4096 < value.utf8ByteSize || value.toList.any Text.isControl ||
      !p.ordinaryRoot value ||
      (Text.split (fun c => c == '/' || c == '\\') value).any (fun part => part == "." || part == "..") ||
      !p.isAbsolute value ||
      (p.components value).any (fun
        | .curDir | .parentDir => true
        | .normal name => refusedName name
        | _ => false) then
    .error (.protocol
      "recording_output_dir must be an exact absolute directory without traversal or alternate streams")
  else .ok ()

/-- The loop of `validate_recording_output_location` over the ancestors of a path. -/
def validateAncestors (fs : FileSystem) : List (List PathComponent) → Except HostError Unit
  | [] => .ok ()
  | path :: rest =>
    match fs path with
    | none => .error (.protocol "recording output must be a pre-created directory with ordinary ancestors")
    | some metadata =>
      if !metadata.isDir || metadata.reparse then
        .error (.protocol "recording output cannot traverse a file, symlink or reparse directory")
      else validateAncestors fs rest

def validateRecordingOutputLocation (p : Platform) (fs : FileSystem) (value : String) : Except HostError Unit :=
  match validateRecordingOutputDir p value with
  | .error e => .error e
  | .ok () => validateAncestors fs (ancestors (p.components value))

end DccCua
