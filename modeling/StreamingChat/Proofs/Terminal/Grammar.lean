import StreamingChat.Proofs.Text.Words
import StreamingChat.Terminal.Command

/-!
# The lines that are understood

A line counts without the blanks at its ends.  Nothing is left of it, or it is a message, or it
begins with a slash; then its words behind the slash have to be those of a command, and every other
line is refused.  Where an approval takes its option before or after the id, the id is never the
option itself, except that a line which gives the option twice approves a request of that name.
-/

namespace StreamingChat.Terminal.Command

open Text (TrimsTo Worded trimChars wordChars)

/-- The words of each command.  The id of an approval is not the option. -/
inductive Means : List String → Command → Prop where
  | stop : Means ["stop"] .stop
  | stats : Means ["stats"] .stats
  | help : Means ["help"] .help
  | quit : Means ["quit"] .quit
  | exit : Means ["exit"] .quit
  | session (id : String) : Means ["session", id] (.session id)
  | deny (id : String) : Means ["deny", id] (.deny id)
  | approve {id : String} (named : id ≠ rememberOption) :
      Means ["approve", id] (.approve id false)
  | approveRemembering {id : String} (named : id ≠ rememberOption) :
      Means ["approve", id, rememberOption] (.approve id true)
  | rememberApproving {id : String} (named : id ≠ rememberOption) :
      Means ["approve", rememberOption, id] (.approve id true)

/-- The words of a text, as texts of their own. -/
def Spells (text : List Char) (words : List String) : Prop :=
  Worded text (words.map String.toList)

/-- What a line means that has no blanks at its ends. -/
inductive Reads : List Char → Command → Prop where
  | nothing : Reads [] .nothing
  | say {text : List Char} (nonempty : text ≠ []) (plain : text.head? ≠ some '/') :
      Reads text (.say (String.ofList text))
  | command {rest : List Char} {words : List String} {c : Command} (spelled : Spells rest words)
      (means : Means words c) : Reads ('/' :: rest) c

/-- The line gives the option of an approval twice and no id. -/
def GivesOptionTwice (text : List Char) : Prop :=
  ∃ rest, text = '/' :: rest ∧ Spells rest ["approve", rememberOption, rememberOption]

variable {name : String} {arguments : List String} {c command : Command} {text rest : List Char}

/-! ## Words -/

theorem alone_eq_ok (accepted : alone name command arguments = .ok c) :
    arguments = [] ∧ c = command := by
  unfold alone at accepted
  split at accepted
  · rename_i empty
    exact ⟨List.isEmpty_iff.mp empty, (Except.ok.inj accepted).symm⟩
  · cases accepted

theorem withId_eq_ok {command : String → Command}
    (accepted : withId name command arguments = .ok c) :
    ∃ id, arguments = [id] ∧ c = command id := by
  unfold withId at accepted
  split at accepted
  · rename_i id
    exact ⟨id, rfl, (Except.ok.inj accepted).symm⟩
  · cases accepted

/-- Where the option comes last, nothing is asked of the word before it. -/
theorem approval?_eq_some (accepted : approval? arguments = some c) :
    Means ("approve" :: arguments) c ∨
      (arguments = [rememberOption, rememberOption] ∧ c = .approve rememberOption true) := by
  unfold approval? at accepted
  split at accepted
  · rename_i id
    split at accepted
    · cases accepted
    · rename_i named
      cases accepted
      exact .inl (.approve named)
  · rename_i first second
    by_cases last : second = rememberOption
    · rw [if_pos last] at accepted
      cases accepted
      subst last
      by_cases named : first = rememberOption
      · subst named
        exact .inr ⟨rfl, rfl⟩
      · exact .inl (.approveRemembering named)
    · rw [if_neg last] at accepted
      split at accepted
      · rename_i before
        cases accepted
        subst before
        exact .inl (.rememberApproving last)
      · cases accepted
  · cases accepted

theorem approval?_of_after (id : String) :
    approval? [id, rememberOption] = some (.approve id true) := by
  rw [approval?, if_pos rfl]

theorem ofWords_approve (accepted : approval? arguments = some c) :
    ofWords "approve" arguments = .ok c := by
  simp [ofWords, accepted]

theorem means_of_ofWords (accepted : ofWords name arguments = .ok c) :
    Means (name :: arguments) c ∨
      (name :: arguments = ["approve", rememberOption, rememberOption] ∧
        c = .approve rememberOption true) := by
  unfold ofWords at accepted
  split at accepted
  · rename_i same
    obtain ⟨rfl, rfl⟩ := alone_eq_ok accepted
    exact .inl (same ▸ .stop)
  split at accepted
  · rename_i same
    obtain ⟨rfl, rfl⟩ := alone_eq_ok accepted
    exact .inl (same ▸ .stats)
  split at accepted
  · rename_i same
    obtain ⟨rfl, rfl⟩ := alone_eq_ok accepted
    exact .inl (same ▸ .help)
  split at accepted
  · rename_i either
    obtain ⟨rfl, rfl⟩ := alone_eq_ok accepted
    rcases either with rfl | rfl
    · exact .inl .quit
    · exact .inl .exit
  split at accepted
  · rename_i same
    obtain ⟨id, rfl, rfl⟩ := withId_eq_ok accepted
    exact .inl (same ▸ .session id)
  split at accepted
  · rename_i same
    obtain ⟨id, rfl, rfl⟩ := withId_eq_ok accepted
    exact .inl (same ▸ .deny id)
  split at accepted
  · rename_i same
    subst same
    split at accepted
    · rename_i approval
      cases accepted
      rcases approval?_eq_some approval with means | ⟨rfl, rfl⟩
      · exact .inl means
      · exact .inr ⟨rfl, rfl⟩
    · cases accepted
  · cases accepted

theorem ofWords_of_means (means : Means (name :: arguments) c) :
    ofWords name arguments = .ok c := by
  cases means with
  | stop => rfl
  | stats => rfl
  | help => rfl
  | quit => rfl
  | exit => rfl
  | session id => rfl
  | deny id => rfl
  | approve named => exact ofWords_approve (if_neg named)
  | approveRemembering named => exact ofWords_approve (approval?_of_after _)
  | rememberApproving named => exact ofWords_approve ((if_neg named).trans (if_pos rfl))

theorem not_means_approve_option (words : List String) (remember : Bool) :
    ¬ Means words (.approve rememberOption remember) := by
  intro means
  cases means with
  | approve named => exact named rfl
  | approveRemembering named => exact named rfl
  | rememberApproving named => exact named rfl

theorem spells_iff {words : List String} :
    Spells text words ↔ (wordChars text).map String.ofList = words := by
  constructor
  · intro spelled
    rw [spelled.wordChars_eq, List.map_map]
    apply (List.map_congr_left ?_).trans (List.map_id words)
    intro word _
    exact String.ofList_toList
  · rintro rfl
    apply Text.wordChars_eq_iff.mp
    rw [List.map_map]
    apply ((List.map_congr_left ?_).trans (List.map_id _)).symm
    intro word _
    exact String.toList_ofList

/-! ## Lines -/

theorem ofTrimmed_slash_iff :
    ofTrimmed ('/' :: rest) = .ok c ↔
      Reads ('/' :: rest) c ∨
        (GivesOptionTwice ('/' :: rest) ∧ c = .approve rememberOption true) := by
  constructor
  · intro accepted
    simp only [ofTrimmed] at accepted
    split at accepted
    · cases accepted
    · rename_i name arguments words
      have spelled : Spells rest (name :: arguments) := spells_iff.mpr words
      rcases means_of_ofWords accepted with means | ⟨twice, rfl⟩
      · exact .inl (.command spelled means)
      · exact .inr ⟨⟨rest, rfl, twice ▸ spelled⟩, rfl⟩
  · rintro (reads | ⟨⟨_, same, spelled⟩, rfl⟩)
    · cases reads with
      | say nonempty plain => exact absurd rfl plain
      | @command _ words _ spelled means =>
          cases words with
          | nil => cases means
          | cons name arguments =>
              simp only [ofTrimmed, spells_iff.mp spelled]
              exact ofWords_of_means means
    · cases same
      simp only [ofTrimmed, spells_iff.mp spelled]
      exact ofWords_approve (approval?_of_after _)

theorem ofTrimmed_iff (text : List Char) (c : Command) :
    ofTrimmed text = .ok c ↔
      Reads text c ∨ (GivesOptionTwice text ∧ c = .approve rememberOption true) := by
  cases text with
  | nil =>
      constructor
      · intro accepted
        cases accepted
        exact .inl .nothing
      · rintro (reads | ⟨⟨_, same, _⟩, _⟩)
        · cases reads with
          | nothing => rfl
          | say nonempty plain => exact absurd rfl nonempty
        · cases same
  | cons first rest =>
      by_cases slash : first = '/'
      · subst slash
        exact ofTrimmed_slash_iff
      · have message : ofTrimmed (first :: rest) = .ok (.say (String.ofList (first :: rest))) := by
          unfold ofTrimmed
          split
          · rename_i same
            cases same
          · rename_i same
            exact absurd (List.cons.inj same).1 slash
          · rfl
        rw [message]
        constructor
        · intro accepted
          cases accepted
          exact .inl (.say (List.cons_ne_nil first rest) (mt Option.some.inj slash))
        · rintro (reads | ⟨⟨_, same, _⟩, _⟩)
          · cases reads with
            | say nonempty plain => rfl
            | command spelled means => exact absurd rfl slash
          · exact absurd (List.cons.inj same).1 slash

/-- The grammar approves no request that has the name of the option. -/
theorem not_reads_approve_option (text : List Char) (remember : Bool) :
    ¬ Reads text (.approve rememberOption remember) := by
  intro reads
  cases reads with
  | command spelled means => exact not_means_approve_option _ remember means

/-- The lines that are understood, and as what.  A line stands for the text that is left of it
without the blanks at its ends, and that text means a command just if the grammar says so; all other
texts are refused.  There is one exception: the option of an approval given twice approves the
request of that name, and no other line approves it. -/
theorem lines_understood (line : String) :
    ∃ text, TrimsTo line.toList text ∧
      (∀ c, ofLine line = .ok c ↔
        Reads text c ∨ (GivesOptionTwice text ∧ c = .approve rememberOption true)) ∧
      ∀ remember, ofLine line = .ok (.approve rememberOption remember) ↔
        GivesOptionTwice text ∧ remember = true := by
  refine ⟨trimChars line.toList, Text.trimsTo_trimChars _, ofTrimmed_iff _, ?_⟩
  intro remember
  constructor
  · intro accepted
    rcases (ofTrimmed_iff _ _).mp accepted with reads | ⟨twice, same⟩
    · exact absurd reads (not_reads_approve_option _ remember)
    · cases same
      exact ⟨twice, rfl⟩
  · rintro ⟨twice, rfl⟩
    exact (ofTrimmed_iff _ _).mpr (.inr ⟨twice, rfl⟩)

/-- The option given twice is no approval of the grammar and is taken for one. -/
theorem option_approved :
    ofLine "/approve --remember --remember" = .ok (.approve rememberOption true) ∧
      ¬ Reads (trimChars "/approve --remember --remember".toList)
        (.approve rememberOption true) :=
  ⟨rfl, not_reads_approve_option _ true⟩

end StreamingChat.Terminal.Command
