import SensorNode.CommandLine.Outcome

/-!
# The error channel

Messages to the user always show on the error channel. Which records of the log show between them
depends on the log: none where it is off, and only warnings where no details are asked for.
-/

namespace SensorNode

/-- The log shows no details. -/
def Log.IsTerse (log : Log) (verbose : Bool) : Prop :=
  ∀ record, log.shows verbose record → record.isWarning

/-- The log shows nothing. -/
def Log.IsSilent (log : Log) (verbose : Bool) : Prop := ∀ record, log.shows verbose record = false

/-- Logs with the same choice of records show the same in all terse runs. -/
theorem Log.IsTerse.shows_eq {log log' : Log} {verbose verbose' : Bool} (h : log.IsTerse verbose)
    (h' : log'.IsTerse verbose') (hfilter : log'.filter = log.filter) :
    log'.shows verbose' = log.shows verbose := by
  cases hchosen : log.filter with
  | some chosen => funext record; simp [shows, hfilter, hchosen]
  | none =>
      -- with nothing chosen, a run is terse only if it is not verbose
      have hquiet {l : Log} {v : Bool} (hnone : l.filter = none) (hterse : l.IsTerse v) :
          v = false := by
        have hdetail := hterse (Log.debug "")
        simpa [shows, hnone, Log.debug, Record.isWarning] using hdetail
      rw [hquiet hchosen h, hquiet (hfilter.trans hchosen) h']
      funext record
      simp [shows, hfilter, hchosen]

namespace CommandLine

namespace Notice

theorem filterMap_message?_map_message (texts : List String) :
    (texts.map message).filterMap message? = texts := by
  induction texts with
  | nil => rfl
  | cons text rest ih => exact congrArg (text :: ·) ih

theorem filterMap_message?_map_record (records : List Log.Record) :
    (records.map record).filterMap message? = [] := by
  induction records with
  | nil => rfl
  | cons logged rest ih => exact ih

theorem filter_isUrgent_map_message (texts : List String) :
    (texts.map message).filter isUrgent = texts.map message := by
  rw [List.filter_eq_self]
  intro notice hnotice
  obtain ⟨text, -, rfl⟩ := List.mem_map.mp hnotice
  rfl

theorem filter_isUrgent_map_record (records : List Log.Record) :
    (records.map record).filter isUrgent = (records.filter Log.Record.isWarning).map record := by
  rw [List.filter_map]
  rfl

/-- Details are not urgent. -/
theorem filter_isUrgent_concat_record (logged : Log.Record) (h : logged.isWarning = false)
    (notices : List Notice) :
    (notices ++ [record logged]).filter isUrgent = notices.filter isUrgent := by
  have hdetail : isUrgent (record logged) = false := h
  simp [hdetail]

/-- All messages are urgent. -/
theorem filterMap_message?_filter_isUrgent (notices : List Notice) :
    (notices.filter isUrgent).filterMap message? = notices.filterMap message? := by
  rw [List.filterMap_filter]
  congr 1
  funext notice
  cases notice with
  | message text => rfl
  | record logged => simp [message?]

theorem map_line_zipIdx_map_message (log : Log) (texts : List String) (before : Nat) :
    ((texts.map message).zipIdx before).map (fun entry => entry.1.line log entry.2) = texts := by
  induction texts generalizing before with
  | nil => rfl
  | cons text rest ih => exact congrArg (text :: ·) (ih (before + 1))

theorem text_map_message (log : Log) (texts : List String) :
    text log (texts.map message) = Text.ended texts := by
  rw [text, map_line_zipIdx_map_message]

theorem filter_shown_of_silent {log : Log} {verbose : Bool} (h : log.IsSilent verbose)
    (notices : List Notice) :
    notices.filter (shown log verbose) = (notices.filterMap message?).map message := by
  induction notices with
  | nil => rfl
  | cons notice rest ih =>
      cases notice with
      | message text => exact congrArg (message text :: ·) ih
      | record logged => rw [List.filter_cons_of_neg (by simp [shown, h logged]), ih]; rfl

theorem shown_of_terse {log : Log} {verbose : Bool} (h : log.IsTerse verbose)
    (notices : List Notice) :
    notices.filter (shown log verbose) = (notices.filter isUrgent).filter (shown log verbose) := by
  rw [List.filter_filter]
  refine List.filter_congr fun notice _ => ?_
  cases notice with
  | message text => rfl
  | record logged =>
      cases hshown : log.shows verbose logged with
      | false => simp [shown, hshown]
      | true => simp [shown, hshown, isUrgent, h logged hshown]

end Notice

namespace Outcome

/-- What a run tells that is asked for no details. -/
def urgent (outcome : Outcome) : List Notice := outcome.notices.filter Notice.isUrgent

theorem filterMap_message?_urgent (outcome : Outcome) :
    outcome.urgent.filterMap Notice.message? = outcome.messages :=
  Notice.filterMap_message?_filter_isUrgent outcome.notices

/-- Unless the surroundings choose what the log shows, it shows what is urgent. -/
theorem shown_eq_urgent {log : Log} (h : log.filter = none) (outcome : Outcome) :
    outcome.shown log false = outcome.urgent := by
  refine List.filter_congr fun notice _ => ?_
  cases notice with
  | message text => rfl
  | record logged => simp [Notice.shown, Notice.isUrgent, Log.shows, h]

theorem errorText_of_silent {log : Log} {verbose : Bool} (h : log.IsSilent verbose)
    (outcome : Outcome) : outcome.errorText log verbose = outcome.errors := by
  rw [errorText, shown, Notice.filter_shown_of_silent h, Notice.text_map_message]
  rfl

/-- In terse runs what is shown is settled by what is urgent. -/
theorem shown_eq_of_urgent_eq {log log' : Log} {verbose verbose' : Bool}
    (h : log.IsTerse verbose) (h' : log'.IsTerse verbose') (hfilter : log'.filter = log.filter)
    {outcome other : Outcome} (hurgent : other.urgent = outcome.urgent) :
    other.shown log' verbose' = outcome.shown log verbose := by
  have hshown : Notice.shown log' verbose' = Notice.shown log verbose := by
    funext notice
    cases notice with
    | message text => rfl
    | record logged => exact congrFun (h.shows_eq h' hfilter) logged
  rw [shown, shown, Notice.shown_of_terse h, Notice.shown_of_terse h', ← urgent, ← urgent,
    hurgent, hshown]

/-- Messages at the end of a run end the text of the channel under every log. -/
theorem exists_errorText_eq_append {outcome : Outcome} {before : List Notice}
    {texts : List String} (h : outcome.notices = before ++ texts.map .message) (log : Log)
    (verbose : Bool) : ∃ text, outcome.errorText log verbose = text ++ Text.ended texts := by
  have hlast : (texts.map Notice.message).filter (Notice.shown log verbose) =
      texts.map Notice.message := by
    rw [List.filter_eq_self]
    intro notice hnotice
    obtain ⟨text, -, rfl⟩ := List.mem_map.mp hnotice
    rfl
  rw [errorText, shown, h, List.filter_append, hlast, Notice.text, List.zipIdx_append,
    List.map_append, Notice.map_line_zipIdx_map_message, Text.ended_append]
  exact ⟨_, rfl⟩

end Outcome

end CommandLine

end SensorNode
