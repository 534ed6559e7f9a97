import WebSsh2.Sftp.DownloadPath
import WebSsh2.Sftp.ListDirectory
import WebSsh2.Sftp.ListingEvents
import WebSsh2.Sftp.ShellOperands

namespace WebSsh2.Sftp

open WebSsh2.Library WebSsh2.Library.Utf8 WebSsh2.Library.Utility WebSsh2.State

def Hidden (name : JsString) : Prop :=
  js "." <+: name

instance (name : JsString) : Decidable (Hidden name) :=
  inferInstanceAs (Decidable (js "." <+: name))

-- `ls` leaves the hidden names out, unless it is told `-a` or `-A`.
def lsShows (flags name : JsString) : Bool :=
  !decide (Hidden name) || flags.contains 97 || flags.contains 65

-- What `ls` prints of a directory for its flags, and the data events in which it arrives. Of
-- the total, of the directory itself and of its parent it prints what it likes.
structure Printed (listing : Listing) (flags : JsString) where
  headers : List JsString
  head : Bytes
  files : List PrintedFile
  events : List Bytes
  hheaders : ∀ line ∈ headers, Header line
  hhead : decode head = headers.flatMap fun line => line ++ [10]
  hfiles : files.map PrintedFile.file = listing.entries.filter fun file => lsShows flags file.name
  hevents : events.flatten = head ++ files.flatMap PrintedFile.bytes

-- What stands at a path: the directory itself, or a symbolic link to it. Of a link the long
-- layout shows the link, and nothing of what is in the directory.
inductive Place (path : JsString) (listing : Listing) where
  | directory (printed : (flags : JsString) → Printed listing flags)
  | link (columns : LsColumns) (target : JsString) (htarget : target ≠ [] ∧ 10 ∉ target)
      (habsolute : path.head? = some 47) (events : JsString → List Bytes)
      (hevents : ∀ flags, decode (events flags).flatten =
        columns.line (.symlink target htarget) path ++ [10])

section Places

variable {path : JsString} {listing : Listing}

def Place.events (flags : JsString) : Place path listing → List Bytes
  | .directory printed => (printed flags).events
  | .link _ _ _ _ events _ => events flags

end Places

-- The SFTP server sends one entry for each file, in some order.
def SendsListing (list : List FileEntry) (listing : Listing) : Prop :=
  (list.map FileEntry.filename).Perm (listing.entries.map LsFile.name)

section Shell

variable {listing : Listing}

end Shell

section Listed

variable {list : List FileEntry} {listing : Listing}

theorem SendsListing.mem_iff (h : SendsListing list listing) (name : JsString) :
    name ∈ list.map FileEntry.filename ↔ name ∈ listing.entries.map LsFile.name :=
  List.Perm.mem_iff h

theorem SendsListing.length_le (h : SendsListing list listing)
    (hcount : listing.entries.length ≤ maxDirectoryEntries) :
    list.length ≤ maxDirectoryEntries := by
  have hlength := List.Perm.length_eq h
  rw [List.length_map, List.length_map] at hlength
  omega

end Listed

variable {showHidden : Bool}

section Answers

variable {path : JsString} {listing : Listing}

variable (place : Place path listing)

end Answers

section Backends

variable {runtime : Runtime} {config : SftpConfig} {request : ListRequest} {listing : Listing}
  {sftp sftpReady sftpAfter : SftpService} {shell shellReady shellAfter : ShellFileService}
  {sftpPath shellPath : JsString} {sftpEvents : Events SftpService}
  {shellEvents : Events ShellFileService} {list : List FileEntry}
  {answer : JsString → CommandReply}

end Backends

section Example

variable {name : JsString}

def openShell : ShellFileService where
  sessions := .empty
  transferManager := connectedService.transferManager
  clients := [js "c1"]
  created := 0

end Example

end WebSsh2.Sftp
