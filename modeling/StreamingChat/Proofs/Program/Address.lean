import StreamingChat.Link.Address
import StreamingChat.Program.DataDir
import StreamingChat.Proofs.Text.Words

/-!
# The address that a loaded configuration connects to

The check of a configuration looks at its address without the blanks at its ends, and the address is
used as it stands.  So what is sure of a loaded configuration is that its address would be one of a
WebSocket if it were trimmed.  It is one as it stands just if whoever had the last word on it,
the arguments, the environment or the file, named it without blanks at its ends; only what the
environment names is trimmed.
-/

namespace StreamingChat

open Text (AllBlank Tidy)

variable {url : String} {c : Config}

namespace Config

/-- An address of a WebSocket as it stands, without blanks at its ends. -/
structure Usable (url : String) : Prop where
  scheme : "ws://".toList <+: url.toList ∨ "wss://".toList <+: url.toList
  tidy : Tidy url.toList

theorem usable_of_hasScheme (scheme : hasScheme url = true) (tidy : Tidy url.toList) :
    Usable url := by
  refine ⟨?_, tidy⟩
  rcases Bool.or_eq_true_iff.mp scheme with plain | secure
  · exact .inl (List.isPrefixOf_iff_prefix.mp plain)
  · exact .inr (List.isPrefixOf_iff_prefix.mp secure)

theorem hasScheme_of_valid (valid : c.problem? = none) : hasScheme (Text.trim c.url) = true := by
  cases scheme : hasScheme (Text.trim c.url) with
  | true => rfl
  | false =>
      by_cases empty : (Text.trim c.url).isEmpty = true
      · simp [problem?, empty] at valid
      · simp [problem?, empty, scheme] at valid

/-- Of a valid configuration, the address is usable once it is trimmed. -/
theorem usable_trim_of_valid (valid : c.problem? = none) : Usable (Text.trim c.url) :=
  usable_of_hasScheme (hasScheme_of_valid valid) (Text.tidy_trim c.url)

theorem usable_iff_of_valid (valid : c.problem? = none) : Usable c.url ↔ Tidy c.url.toList := by
  constructor
  · exact Usable.tidy
  · intro tidy
    exact Text.trim_of_tidy tidy ▸ usable_trim_of_valid valid

theorem unlessBlank_of_blank (blank : AllBlank url.toList) : unlessBlank (some url) = none := by
  have nothing : Text.trim url = "" := by
    rw [Text.trim, Text.trimChars_eq_nil_iff.mpr blank, String.ofList_nil]
  rw [unlessBlank, Option.map_some, nothing]
  rfl

theorem unlessBlank_of_not_blank (named : ¬ AllBlank url.toList) :
    unlessBlank (some url) = some (Text.trim url) := by
  have something : (Text.trim url).isEmpty = false := by
    rw [Bool.eq_false_iff, ne_eq, String.isEmpty_iff, Text.trim, String.ofList_eq_empty_iff,
      Text.trimChars_eq_nil_iff]
    exact named
  rw [unlessBlank, Option.map_some, Option.filter_some, something]
  rfl

end Config

namespace Program

open Config (Usable unlessBlank)

variable {a : Arguments} {env : Environment} {d : DataDir} {f : Files} {file : Config}

/-- The name of the variable for the address. -/
def urlName : String := "CHATSTREAM_URL"

/-- Whoever names the address last does so without blanks at its ends.  What the environment names
may have some. -/
def NamedTidily (a : Arguments) (env : Environment) (file : Config) : Prop :=
  match a.get? .url with
  | some url => Tidy url.toList
  | none => (∃ url, env urlName = some url ∧ ¬ AllBlank url.toList) ∨ Tidy file.url.toList

/-- What is loaded is valid, and comes from the file, the environment and the arguments. -/
theorem loaded_from (loaded : loadConfig a env d f = .ok c) :
    ∃ file, (configFile (a.get? .config) d f >>= fileConfig) = .ok file ∧
      c = withArguments (file.overriddenBy (env urlName) (env "CHATSTREAM_SESSION")) a ∧
      c.problem? = none := by
  unfold loadConfig at loaded
  cases found : configFile (a.get? .config) d f with
  | error e =>
      rw [found] at loaded
      cases loaded
  | ok source =>
      rw [found] at loaded
      cases read : fileConfig source with
      | error e =>
          simp only [bind, Except.bind, read] at loaded
          cases loaded
      | ok file =>
          simp only [bind, Except.bind, read] at loaded
          split at loaded
          · cases loaded
          · rename_i valid
            obtain rfl := Except.ok.inj loaded
            exact ⟨file, read, rfl, valid⟩

theorem tidy_url_iff :
    Tidy (withArguments (file.overriddenBy (env urlName) (env "CHATSTREAM_SESSION")) a).url.toList ↔
      NamedTidily a env file := by
  unfold NamedTidily withArguments Config.overriddenBy
  cases given : a.get? .url with
  | some url => exact Iff.rfl
  | none =>
      cases set : env urlName with
      | none =>
          constructor
          · exact .inr
          · rintro (⟨_, none_set, _⟩ | tidy)
            · cases none_set
            · exact tidy
      | some url =>
          by_cases blank : AllBlank url.toList
          · rw [Config.unlessBlank_of_blank blank]
            constructor
            · exact .inr
            · rintro (⟨_, same, named⟩ | tidy)
              · exact absurd (Option.some.inj same ▸ blank) named
              · exact tidy
          · rw [Config.unlessBlank_of_not_blank blank]
            constructor
            · intro _
              exact .inl ⟨url, rfl, blank⟩
            · intro _
              exact Text.tidy_trim url

/-- The address of a loaded configuration.  Without the blanks at its ends it is one of a WebSocket.
As it stands it is one just if whoever named it last did so without blanks at its ends: the
arguments, or else the environment, whose blanks are taken off, or else the file. -/
theorem usable_iff_named_tidily (loaded : loadConfig a env d f = .ok c) :
    ∃ file, (configFile (a.get? .config) d f >>= fileConfig) = .ok file ∧
      Usable (Text.trim c.url) ∧ (Usable c.url ↔ NamedTidily a env file) := by
  obtain ⟨file, read, rfl, valid⟩ := loaded_from loaded
  refine ⟨file, read, Config.usable_trim_of_valid valid, ?_⟩
  rw [Config.usable_iff_of_valid valid]
  exact tidy_url_iff

/-- Blanks around the address in the environment are of no account. -/
def spacious : Environment
  | "CHATSTREAM_URL" => some " wss://chat.test/ws\n"
  | _ => none

theorem usable_iff_named_tidily_of_spacious :
    loadConfig ⟨[], none⟩ spacious ⟨"/data"⟩ {} = .ok { url := "wss://chat.test/ws" } ∧
      Usable "wss://chat.test/ws" := by
  have loaded : loadConfig ⟨[], none⟩ spacious ⟨"/data"⟩ {} =
      .ok { url := "wss://chat.test/ws" } := rfl
  obtain ⟨file, -, -, usable⟩ := usable_iff_named_tidily loaded
  have named : NamedTidily ⟨[], none⟩ spacious file := by
    refine .inl ⟨_, rfl, ?_⟩
    decide
  exact ⟨loaded, usable.mpr named⟩

/-- An address with a blank before it is accepted from the arguments, and no link can be opened
with it. -/
theorem blank_before_address :
    Arguments.read ["--url", " ws://x"] (fun _ => none) = .ok ⟨[(.url, " ws://x")], none⟩ ∧
      loadConfig ⟨[(.url, " ws://x")], none⟩ (fun _ => none) ⟨"/data"⟩ {} =
        .ok { url := " ws://x" } ∧
      ¬ Usable " ws://x" ∧ Link.Address.problem? " ws://x" = some .character := by
  refine ⟨rfl, rfl, ?_, rfl⟩
  intro usable
  have first : Text.isBlank ' ' = false := usable.tidy.head ' ' rfl
  cases first

end Program

end StreamingChat
