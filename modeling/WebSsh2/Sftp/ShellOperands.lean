import WebSsh2.Library.Utility
import WebSsh2.Sftp.ShellFileService

namespace WebSsh2.Sftp

open WebSsh2.Library WebSsh2.Library.Shell

-- The characters that a POSIX shell does not read as they stand.
def specialUnits : List (UInt16 × CharClass) :=
  [(0, .nul), (10, .newline), (32, .blank), (9, .blank), (38, .operator .and),
    (124, .operator .or), (59, .operator .semi), (60, .operator .less), (62, .operator .greater),
    (40, .operator .open), (41, .operator .close), (39, .quote), (34, .doubleQuote),
    (92, .backslash), (36, .expansion), (96, .expansion), (42, .pattern), (63, .pattern),
    (91, .pattern), (126, .tilde), (35, .hash)]

def shellClass (unit : UInt16) : CharClass :=
  match specialUnits.find? (·.1 = unit) with
  | some (_, special) => special
  | none => .ordinary

def shellTokens (command : JsString) : Option (List (Token UInt16)) :=
  lex shellClass 92 command

theorem mem_specialUnits {unit : UInt16} {special : CharClass} (h : shellClass unit = special)
    (hspecial : special ≠ .ordinary) : (unit, special) ∈ specialUnits := by
  unfold shellClass at h
  cases hfind : specialUnits.find? (·.1 = unit) with
  | none =>
    rw [hfind] at h
    exact (hspecial h.symm).elim
  | some entry =>
    rw [hfind] at h
    have hunit : entry.1 = unit := by simpa using List.find?_some hfind
    obtain rfl : entry = (unit, special) := Prod.ext hunit h
    exact List.mem_of_find?_eq_some hfind

theorem shellClass_quote_iff (unit : UInt16) : shellClass unit = .quote ↔ unit = quote := by
  constructor
  · intro h
    have hmem := mem_specialUnits h (by decide)
    exact (show ∀ entry ∈ specialUnits, entry.2 = .quote → entry.1 = quote by decide) _ hmem rfl
  · rintro rfl
    decide

theorem shellClass_nul_iff (unit : UInt16) : shellClass unit = .nul ↔ unit = 0 := by
  constructor
  · intro h
    have hmem := mem_specialUnits h (by decide)
    exact (show ∀ entry ∈ specialUnits, entry.2 = .nul → entry.1 = 0 by decide) _ hmem rfl
  · rintro rfl
    decide

theorem escapeShellPath_eq (path : JsString) :
    escapeShellPath path = singleQuoted quote 92 path := by
  have hquoted : js "'\\''" = [quote, 92, quote, quote] := rfl
  unfold escapeShellPath
  rw [hquoted]
  rfl

-- A fixed command in front of an escaped path, read up to the blank behind it.
def Prefixes (command : JsString) (tokens : List (Token UInt16)) : Prop :=
  (∀ unit ∈ command, shellClass unit ≠ .nul) ∧
    command.foldl (Lexer.step shellClass 92) {} = ⟨.unquoted, none, tokens⟩

instance (command : JsString) (tokens : List (Token UInt16)) :
    Decidable (Prefixes command tokens) :=
  inferInstanceAs (Decidable (_ ∧ _))

theorem shellTokens_escaped {command : JsString} {tokens : List (Token UInt16)}
    (h : Prefixes command tokens) {path : JsString} (hpath : 0 ∉ path) :
    shellTokens (command ++ escapeShellPath path) = some (tokens ++ [.quoted path]) := by
  rw [escapeShellPath_eq]
  refine lex_command shellClass_quote_iff (by decide) h.1 h.2 fun unit hmem hnul => ?_
  rw [(shellClass_nul_iff unit).mp hnul] at hmem
  exact hpath hmem

def listFlags (showHidden : Bool) : JsString :=
  if showHidden then js "-laA" else js "-la"

theorem list_prefixes (showHidden : Bool) :
    Prefixes (js "ls " ++ listFlags showHidden ++ js " ")
      [.bare (js "ls"), .bare (listFlags showHidden)] := by
  cases showHidden <;> decide

theorem stat_prefixes : Prefixes (js "ls -lad ") [.bare (js "ls"), .bare (js "-lad")] := by
  decide

theorem cat_prefixes : Prefixes (js "cat ") [.bare (js "cat")] := by
  decide

theorem catInto_prefixes : Prefixes (js "cat > ") [.bare (js "cat"), .operator [.greater]] := by
  decide

-- Whatever the path is: the shell reads it as one word that is the path itself, with nothing
-- to expand, and every command as its fixed words with that word behind them.
theorem commands_tokenized (path : JsString) (hpath : 0 ∉ path) :
    shellTokens (escapeShellPath path) = some [.quoted path] ∧
      (Token.quoted path).text? = some path ∧
      (∀ showHidden, shellTokens (buildListCommand path showHidden) =
        some [.bare (js "ls"), .bare (listFlags showHidden), .quoted path]) ∧
      shellTokens (buildStatCommand path) =
        some [.bare (js "ls"), .bare (js "-lad"), .quoted path] ∧
      shellTokens (catIntoCommand path) =
        some [.bare (js "cat"), .operator [.greater], .quoted path] ∧
      shellTokens (catCommand path) = some [.bare (js "cat"), .quoted path] := by
  refine ⟨?_, Token.text?_quoted path, fun showHidden => ?_, ?_, ?_, ?_⟩
  · exact shellTokens_escaped (show Prefixes [] [] from ⟨nofun, rfl⟩) hpath
  · exact shellTokens_escaped (list_prefixes showHidden) hpath
  · exact shellTokens_escaped stat_prefixes hpath
  · exact shellTokens_escaped catInto_prefixes hpath
  · exact shellTokens_escaped cat_prefixes hpath

-- Quotes at both ends, an escape, an operator, a substitution and a line end.
theorem hostile_path_tokenized :
    shellTokens (buildStatCommand (js "';$(rm *)\\' \n'")) =
      some [.bare (js "ls"), .bare (js "-lad"), .quoted (js "';$(rm *)\\' \n'")] :=
  (commands_tokenized (js "';$(rm *)\\' \n'") (by decide)).2.2.2.1

end WebSsh2.Sftp

namespace WebSsh2.Sftp

open WebSsh2.Library WebSsh2.Library.Shell WebSsh2.Library.Utility

section Commands

variable {command path : JsString}

end Commands

section Resolution

variable {normalized : JsString}

end Resolution

end WebSsh2.Sftp
