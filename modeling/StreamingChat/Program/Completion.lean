import StreamingChat.Program.Arguments

/-!
Scripts that make a shell complete the words of the command line.
-/

namespace StreamingChat.Program

/-- The words that are offered. -/
def completions : List String :=
  Scope.main.settings.map (fun s => "--" ++ s.name) ++ ["--help", "--version"] ++
    Reading.commandNames

def quotedCompletions : List String :=
  completions.map fun word => "'" ++ word ++ "'"

def Shell.script : Shell → String
  | bash => "complete -o default -W \"" ++ " ".intercalate completions ++ "\" chatstream"
  | elvish =>
    "set edit:completion:arg-completer[chatstream] = \x7b|@words| put " ++
      " ".intercalate quotedCompletions ++ " \x7d"
  | fish => "complete -c chatstream -a \"" ++ " ".intercalate completions ++ "\""
  | powershell =>
    "Register-ArgumentCompleter -Native -CommandName chatstream -ScriptBlock \x7b param($word) " ++
      ", ".intercalate quotedCompletions ++ " | Where-Object \x7b $_ -like \"$word*\" \x7d \x7d"
  | zsh => "compctl -k '(" ++ " ".intercalate completions ++ ")' chatstream"

end StreamingChat.Program
