import SyncLayer.Fib.Program
import SyncLayer.Proofs.Config.Precedence
import SyncLayer.Proofs.Text.Quoted

/-!
# How a value that means nothing is reported

The message about such a value tells it as a quoted literal, behind the key of its field. From the
literal the value is read back, so that no two values have the same message. There are no control
characters in the message but those of the key, which is told as it is. The fields of a configuration
have keys without any, so what the driver warns about is on one line, whatever a variable holds.
-/

namespace SyncLayer

variable {lookup : String → Option String} {env : Environment} {files : String → FileContents}
  {key value s t : String} {e : ConfigError}

/-! ### Where the value comes from -/

namespace Config

/-- The value at fault is what the variable of its field holds. -/
theorem FirstFault.exists_checked {fs : List Checked} (h : FirstFault lookup fs e) :
  ∃ f ∈ fs, ∃ s, lookup f.source = some s ∧ e = .invalidValue f.key s
  := by
  induction h with
  | here hs _ => exact ⟨_, List.mem_cons_self, _, hs, rfl⟩
  | later _ _ ih =>
      obtain ⟨f, hf, fault⟩ := ih
      exact ⟨f, List.mem_cons_of_mem _ hf, fault⟩

/-- A file that cannot be loaded is no value that means nothing. -/
theorem ofFile_ne_invalidValue :
  ofFile env files ≠ .error (.invalidValue key value)
  := by
  rw [ofFile]
  cases env.lookup fileVariable with
  | none => nofun
  | some path =>
      intro h
      rcases bind_eq_error.mp h with h | ⟨text, _, h⟩
      · cases hf : FileContents.text (files path) <;> rw [hf] at h <;> cases h
      · cases hd : ofDocument text.toList <;> rw [parse, hd] at h <;> cases h

theorem exists_checked_of_discover (h : discover env files = .error (.invalidValue key value)) :
  ∃ f ∈ checked, f.key = key ∧ env.lookup f.source = some value
  := by
  rcases bind_eq_error.mp h with h | ⟨_, _, h⟩
  -- a document that means nothing is refused as a whole, and told as such
  · cases ofFile_ne_invalidValue h
  · obtain ⟨f, hf, s, hs, he⟩ := (withOverrides_eq_error_iff.mp h).exists_checked
    cases he
    exact ⟨f, hf, rfl, hs⟩

/-- No key has a control character. -/
theorem isClean_of_mem_checked :
  ∀ f ∈ checked, Text.IsClean f.key.toList
  := by
  intro f hf
  simp only [checked, List.mem_cons, List.not_mem_nil, or_false] at hf
  rcases hf with rfl | rfl | rfl | rfl <;> decide

end Config

/-! ### What is said about it -/

theorem Text.isClean_quoted (s : String) :
  Text.IsClean (Text.quoted s).toList
  := by
  intro c hc
  rw [Text.quoted, String.toList_ofList] at hc
  apply (Text.isSeen_of_mem_quote hc).not_isControl

/-- Words without control characters may stand in front of a text. -/
theorem Text.isClean_append_iff {words : String} (hw : Text.IsClean words.toList) :
  Text.IsClean (words ++ s).toList ↔ Text.IsClean s.toList
  := by
  rw [String.toList_append, Text.isClean_append]
  apply and_iff_right hw

namespace ConfigError

/-- The control characters of a message are those of the key. -/
theorem isClean_message_iff :
  Text.IsClean ("invalid value for " ++ key ++ ": " ++ Text.quoted value).toList
    ↔ Text.IsClean key.toList
  := by
  simp only [String.toList_append, Text.isClean_append]
  constructor
  · rintro ⟨⟨⟨_, h⟩, _⟩, _⟩
    exact h
  · intro h
    exact ⟨⟨⟨by decide, h⟩, by decide⟩, Text.isClean_quoted value⟩

/-- Values with the same message, for one key, are the same. -/
theorem eq_of_message?_eq (h : (invalidValue key s).message? = (invalidValue key t).message?) :
  s = t
  := by
  apply Text.quoted_injective
  exact (String.append_right_inj _).mp (Option.some.inj h)

end ConfigError

/-- The driver warns about a configuration that cannot be discovered. -/
theorem Fib.stderr_run {filter : LogFilter} {options : Fib.Options}
    (h : Config.discover env files = .error e) :
  (Fib.run env files filter options).stderr = Fib.warning (.config e)
  := by
  have result : Session.setUp env files {} Session.nominalMeasurement = (.error (.config e), {}) := by
    rw [Session.setUp, h]
  rw [Fib.run, result]
  cases Fib.work? options <;> rfl

namespace ConfigError

/-- The message about a value that means nothing ends with a quoted literal, in which everything is
seen and from which the value is read back. It has just the control characters of the key, also
behind the words of the layer. For one key, two values never have the same message. If an environment
has such a value, then it is what the variable of some field holds, and the driver warns with the
message of the layer, on one line without control characters. -/
theorem unambiguity :
  (∀ key value, ∃ text literal : String,
      (invalidValue key value).message? = some text
        ∧ (LayerError.config (.invalidValue key value)).message?
          = some ("configuration error: " ++ text)
        ∧ text = "invalid value for " ++ key ++ ": " ++ literal
        ∧ Text.unquote? literal.toList = some value.toList
        ∧ (∀ c ∈ literal.toList, Text.IsSeen c)
        ∧ (Text.IsClean text.toList ↔ Text.IsClean key.toList)
        ∧ (Text.IsClean ("configuration error: " ++ text).toList ↔ Text.IsClean key.toList))
    ∧ (∀ key s t, (invalidValue key s).message? = (invalidValue key t).message? → s = t)
    ∧ (∀ key s t, (LayerError.config (.invalidValue key s)).message?
      = (LayerError.config (.invalidValue key t)).message? → s = t)
    ∧ ∀ env files key value, Config.discover env files = .error (.invalidValue key value) →
      (∃ f ∈ Config.checked, f.key = key ∧ env.lookup f.source = some value)
        ∧ ∀ filter options, ∃ text : String,
          (LayerError.config (.invalidValue key value)).message? = some text
            ∧ (Fib.run env files filter options).stderr = "warning: " ++ text ++ "\n"
            ∧ Text.IsClean ("warning: " ++ text).toList
  := by
  have wrapped {key value : String} : Text.IsClean ("configuration error: "
      ++ ("invalid value for " ++ key ++ ": " ++ Text.quoted value)).toList
        ↔ Text.IsClean key.toList := by
    rw [Text.isClean_append_iff (by decide), isClean_message_iff]
  refine ⟨?_, fun _ _ _ => eq_of_message?_eq, ?_, ?_⟩
  · intro key value
    refine ⟨_, Text.quoted value, rfl, rfl, rfl, ?_, ?_, isClean_message_iff, wrapped⟩
    · rw [Text.quoted, String.toList_ofList, Text.unquote?_quote]
    · intro c hc
      rw [Text.quoted, String.toList_ofList] at hc
      apply Text.isSeen_of_mem_quote hc
  · intro key s t h
    have messages := (String.append_right_inj _).mp (Option.some.inj h)
    exact eq_of_message?_eq (congrArg some messages)
  · intro env files key value h
    obtain ⟨f, hf, rfl, hs⟩ := Config.exists_checked_of_discover h
    refine ⟨⟨f, hf, rfl, hs⟩, ?_⟩
    intro filter options
    refine ⟨_, rfl, ?_, ?_⟩
    · rw [Fib.stderr_run h]
      rfl
    · rw [Text.isClean_append_iff (by decide), wrapped]
      apply Config.isClean_of_mem_checked f hf

/-- A text that looks like the end of a warning and another one is told as a value, on one line. -/
theorem unambiguity_forged :
  Config.discover ⟨[(Config.intervalVariable, "0\"\nwarning: none".toUTF8)]⟩ (fun _ => .error ⟨2⟩)
      = .error (.invalidValue "refcount_flush_interval" "0\"\nwarning: none")
    ∧ ∀ filter options, ∃ text : String,
      (Fib.run ⟨[(Config.intervalVariable, "0\"\nwarning: none".toUTF8)]⟩ (fun _ => .error ⟨2⟩) filter
          options).stderr = "warning: " ++ text ++ "\n"
        ∧ Text.IsClean ("warning: " ++ text).toList
  := by
  have found : Config.discover ⟨[(Config.intervalVariable, "0\"\nwarning: none".toUTF8)]⟩
      (fun _ => .error ⟨2⟩)
      = .error (.invalidValue "refcount_flush_interval" "0\"\nwarning: none") := rfl
  refine ⟨found, ?_⟩
  intro filter options
  obtain ⟨_, warns⟩ := unambiguity.2.2.2 _ _ _ _ found
  obtain ⟨text, _, printed, clean⟩ := warns filter options
  exact ⟨text, printed, clean⟩

/-- So it is not true that a message is on one line whatever the key is. -/
theorem not_clean_for_every_key :
  ¬ ∀ key value text, (invalidValue key value).message? = some text → Text.IsClean text.toList
  := by
  intro clean
  have key : ¬ Text.IsClean "stats\"format\n".toList := by decide
  apply key
  apply isClean_message_iff.mp (clean "stats\"format\n" "xml" _ rfl)

end ConfigError

end SyncLayer
