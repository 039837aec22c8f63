import MakeTools.Proofs.Gate
import MakeTools.Proofs.Lexing
import MakeTools.Proofs.Supervision
import MakeTools.Proofs.Utf8

/-!
# MakeTools.Proofs.Reports

What the report on a run tells of the child.

The report on a child that comes to its end by itself is a heading, with the
command, the return code and the time, and the output below it
(`report_outcome_ending`).  The return code is read back at the end of its line
(`heading_append_eq_iff`).  An output within the limit is shown as it is; of a
longer one the report shows as many characters as the limit allows, and says
how many are left out (`outputText_eq_iff`).  Two reports are thus the same only
if the children ended the same way, up to what is left out of their outputs.
-/

namespace MakeTools

/-! ## Texts -/

namespace Text

/-- Only digits stand in a natural number that is written. -/
theorem isDigit_of_mem_repr {n : Nat} {c : Char} (h : c ∈ n.repr.toList) : c.isDigit = true := by
  rw [Nat.toList_repr] at h
  exact Nat.isDigit_of_mem_toDigits (by decide) (by decide) h

/-- A number is written on one line. -/
theorem newline_not_mem_toString (n : Int) : '\n' ∉ (toString n).toList := by
  have hdigits : ∀ m : Nat, '\n' ∉ m.repr.toList :=
    fun m hm => absurd (isDigit_of_mem_repr hm) (by decide)
  rw [Int.toString_eq_repr, Int.repr_eq_if]
  split
  · exact hdigits _
  · rw [String.toList_append, List.mem_append, not_or]
    exact ⟨by decide, hdigits _⟩

theorem natRepr_inj {m n : Nat} (h : m.repr = n.repr) : m = n := by
  have hdigits : Nat.toDigits 10 m = Nat.toDigits 10 n := by
    rw [← Nat.toList_repr, ← Nat.toList_repr, h]
  calc m = Nat.ofDigitChars 10 (Nat.toDigits 10 m) 0 :=
        (Nat.ofDigitChars_toDigits (by decide) (by decide)).symm
    _ = n := by rw [hdigits, Nat.ofDigitChars_toDigits (by decide) (by decide)]

/-- Different numbers are written differently. -/
theorem toString_inj {m n : Int} (h : toString m = toString n) : m = n := by
  -- A sign is no digit, so numbers of different signs differ in front.
  have hsign : ∀ {a b : Nat}, a.repr ≠ "-" ++ b.repr := by
    intro a b hab
    have hm : '-' ∈ a.repr.toList := by simp [hab]
    exact absurd (isDigit_of_mem_repr hm) (by decide)
  rw [Int.toString_eq_repr, Int.toString_eq_repr, Int.repr_eq_if, Int.repr_eq_if] at h
  split at h
  · split at h
    · have := natRepr_inj h
      omega
    · exact absurd h hsign
  · split at h
    · exact absurd h.symm hsign
    · have := natRepr_inj ((String.append_right_inj "-").1 h)
      omega

end Text

/-! ## Outputs -/

namespace Outcome

variable {m : Int} {text text' : String}

/-- The output is longer than the limit allows. -/
def Exceeds (m : Int) (text : String) : Prop := 0 < m ∧ m < text.length

/-- An output as it is shown in full. -/
def fullText (text : String) : String :=
  if text = "" then "" else "Output:\n" ++ text ++ "\n"

/-- What stands behind the part that is shown of a longer output: how much is
left out, and the limit. -/
def cutNote (m omitted : Int) : String :=
  "\n\n... (truncated, " ++ toString omitted ++ " chars omitted)\n"
    ++ "\nNote: Output exceeded " ++ toString m ++ " characters and was truncated.\n"

theorem outputText_of_not_exceeds (h : ¬ Exceeds m text) : outputText m text = fullText text := by
  unfold Exceeds at h
  unfold outputText fullText
  rw [if_neg h]
  simp only [String.isEmpty_iff]

theorem outputText_of_exceeds (h : Exceeds m text) :
    outputText m text = "Output:\n" ++ String.ofList (text.toList.take m.toNat)
      ++ cutNote m (text.length - m) := by
  unfold Exceeds at h
  unfold outputText cutNote
  rw [if_pos h, ← String.toList_inj]
  simp only [String.toList_append, List.append_assoc]

theorem length_take_of_exceeds (h : Exceeds m text) :
    ((text.toList.take m.toNat).length : Int) = m := by
  obtain ⟨hm, hlt⟩ := h
  rw [List.length_take, String.length_toList]
  omega

/-- Of an output that exceeds the limit the first characters are shown, and the
number of the others is told. -/
theorem exists_shown_of_exceeds (h : Exceeds m text) :
    ∃ shown hidden : String, ∃ omitted : Int, text = shown ++ hidden ∧ shown.length = m ∧
      omitted + m = text.length ∧
      outputText m text = "Output:\n" ++ shown ++ cutNote m omitted := by
  refine ⟨.ofList (text.toList.take m.toNat), .ofList (text.toList.drop m.toNat),
    text.length - m, ?_, ?_, by omega, outputText_of_exceeds h⟩
  · rw [← String.toList_inj, String.toList_append, String.toList_ofList, String.toList_ofList,
      List.take_append_drop]
  · rw [String.length_ofList]
    exact length_take_of_exceeds h

theorem fullText_inj (h : fullText text = fullText text') : text = text' := by
  unfold fullText at h
  split at h
  · next ht =>
    split at h
    · next ht' => rw [ht, ht']
    · simp at h
  · split at h
    · simp at h
    · exact (String.append_right_inj _).1 ((String.append_left_inj _).1 h)

/-- The note on a cut takes more room than the end of a line. -/
theorem one_lt_length_cutNote (m omitted : Int) : 1 < (cutNote m omitted).length := by
  have hlen : 1 < "\n\n... (truncated, ".length := by decide
  unfold cutNote
  simp only [String.length_append, Nat.add_assoc]
  exact Nat.lt_add_right _ hlen

/-- No output that is shown in full looks like one that is cut. -/
theorem outputText_ne_of_exceeds (h : ¬ Exceeds m text) (h' : Exceeds m text') :
    outputText m text ≠ outputText m text' := by
  rw [outputText_of_not_exceeds h, outputText_of_exceeds h']
  unfold fullText
  split
  · simp
  · intro he
    have hlen := congrArg String.length he
    have hline : "\n".length = 1 := rfl
    simp only [String.length_append, hline, String.length_ofList] at hlen
    have hkept := length_take_of_exceeds h'
    have hnote := one_lt_length_cutNote m (text'.length - m)
    have hm := h'.1
    unfold Exceeds at h
    omega

theorem cutNote_inj {omitted omitted' : Int} (h : cutNote m omitted = cutNote m omitted') :
    omitted = omitted' := by
  unfold cutNote at h
  simp only [String.append_left_inj, String.append_right_inj] at h
  exact Text.toString_inj h

/-- Two outputs give the same report only if they are the same, or if both
exceed the limit and differ only behind what is shown. -/
theorem outputText_eq_iff :
    outputText m text = outputText m text' ↔ text = text' ∨
      0 < m ∧ m < text.length ∧ m < text'.length ∧ text.length = text'.length ∧
        text.toList.take m.toNat = text'.toList.take m.toNat := by
  constructor
  · intro he
    by_cases h : Exceeds m text
    · by_cases h' : Exceeds m text'
      · have hkept := (length_take_of_exceeds h).trans (length_take_of_exceeds h').symm
        rw [outputText_of_exceeds h, outputText_of_exceeds h', ← String.toList_inj] at he
        simp only [String.toList_append, String.toList_ofList, List.append_assoc,
          List.append_cancel_left_eq] at he
        obtain ⟨htake, hnote⟩ := List.append_inj he (Int.ofNat.inj hkept)
        have homitted := cutNote_inj (String.toList_inj.1 hnote)
        exact .inr ⟨h.1, h.2, h'.2, by omega, htake⟩
      · exact absurd he.symm (outputText_ne_of_exceeds h' h)
    · by_cases h' : Exceeds m text'
      · exact absurd he (outputText_ne_of_exceeds h h')
      · rw [outputText_of_not_exceeds h, outputText_of_not_exceeds h'] at he
        exact .inl (fullText_inj he)
  · intro h
    cases h with
    | inl h => rw [h]
    | inr h =>
        obtain ⟨hm, hlt, hlt', hlen, htake⟩ := h
        rw [outputText_of_exceeds ⟨hm, hlt⟩, outputText_of_exceeds ⟨hm, hlt'⟩, hlen, htake]

end Outcome

/-! ## Headings -/

namespace Child

variable {c : Child} {command : List String} {code code' : Int} {text : String} {duration : Float}

/-- The child, if it ends with this return code after it has written this
text. -/
def ending (c : Child) (code : Int) (text : String) : Child :=
  { c with returnCode := some code, bytes := Text.Utf8.encode text.toList }

/-- What the report on a child says in front of its output. -/
def heading (command : List String) (code : Int) (duration : Float) : String :=
  (if code = 0 then "Successfully executed: " else "Failed to execute ")
    ++ Command.line command ++ "\n" ++ "Exit Code: " ++ toString code ++ "\n"
    ++ "Duration: " ++ Decimal.fixed 2 duration ++ "s\n\n"

/-- The report on a child that ended is a heading and its output. -/
theorem report_outcome_ending (m : Int) (target : String) :
    ((c.ending code text).outcome target command duration).report m =
      heading command code duration ++ Outcome.outputText m text := by
  have hsuccess : (some code == some 0) = decide (code = 0) := rfl
  unfold Outcome.report heading
  simp only [outcome, ending, Option.getD_some, Text.Utf8.decodeLossy_encode, String.ofList_toList,
    hsuccess, decide_eq_true_eq, Outcome.commandLine]

/-- Both the return code and what stands below are read back from a report. -/
theorem heading_append_eq_iff {s s' : String} :
    heading command code duration ++ s = heading command code' duration ++ s' ↔
      code = code' ∧ s = s' := by
  refine ⟨fun h => ?_, fun h => by rw [h.1, h.2]⟩
  have hkind : code = 0 ↔ code' = 0 := by
    have hfirst := congrArg (fun s => s.toList.head?) h
    unfold heading at hfirst
    by_cases hc : code = 0 <;> by_cases hc' : code' = 0 <;> simp [hc, hc'] at hfirst ⊢
  unfold heading at h
  rw [← String.toList_inj] at h
  simp only [hkind, String.toList_append, List.append_assoc, List.append_cancel_left_eq] at h
  obtain ⟨hcode, hbelow⟩ := Text.append_cons_inj (Text.newline_not_mem_toString code)
    (Text.newline_not_mem_toString code') h
  have hrest : ("Duration: " ++ Decimal.fixed 2 duration ++ "s\n\n").toList ++ s.toList =
      ("Duration: " ++ Decimal.fixed 2 duration ++ "s\n\n").toList ++ s'.toList := by
    simp only [String.toList_append, List.append_assoc]
    exact hbelow
  exact ⟨Text.toString_inj (String.toList_inj.1 hcode),
    String.toList_inj.1 (List.append_cancel_left hrest)⟩

end Child

/-! ## Calls -/

namespace Run

variable {disk : Disk} {c : Child} {r : Request} {command : List String}

/-- The command that a run starts is that of a request that passes the
checks. -/
theorem startable_of_mem_commands (h : command ∈ Event.commands (withChild disk c r).events) :
    Startable disk r command := by
  by_cases hs : ∃ built, Startable disk r built
  · obtain ⟨built, hb⟩ := hs
    have hc : Event.commands (withChild disk c r).events = [built] := by
      rw [(withChild_of_startable hb).2]
      exact congrArg (built :: ·) (commands_attend c r built)
    rw [hc, List.mem_singleton] at h
    rwa [h]
  · rw [(withChild_of_not_startable hs).2] at h
    exact absurd h List.not_mem_nil

/-- The report on a child that comes to its end by itself. -/
theorem result_withChild_ending (h : Startable disk r command) (hf : Finishes c r.timeout)
    (code : Int) (text : String) :
    (withChild disk (c.ending code text) r).result =
      .ok ((c.ending code text).outcome r.target command (c.tick.now - c.now)) := by
  have hfinishes : Finishes (c.ending code text) r.timeout := hf
  rw [(withChild_of_startable h).1, (attend_of_finishes hfinishes).1]
  rfl

end Run

/-- A call that starts a command is accepted, and its request passes the
checks. -/
theorem Server.exists_accepted_of_mem_commands {s : Server} {disk : Disk} {tool : String}
    {arguments : List (String × Value)} {c : Child} {command : List String}
    (hx : s.config.executor = .child c)
    (h : command ∈ (s.call disk tool arguments).1.recorded.drop s.recorded.length ++
      Event.commands (s.call disk tool arguments).2.events) :
    ∃ r, s.config.accept disk tool arguments = .ok r ∧ r.timeout = s.config.timeout ∧
      Run.Startable disk r command := by
  cases hr : s.config.accept disk tool arguments with
  | error o =>
      obtain ⟨hrec, hev, -⟩ := call_of_accept_eq_error hr
      rw [hrec, hev, List.drop_length] at h
      exact absurd h List.not_mem_nil
  | ok r =>
      obtain ⟨hrec, hev, -⟩ := call_of_accept_eq_ok hr
      rw [hrec, hev, List.drop_left, hx] at h
      obtain ⟨target, -, -, -, -, -, rfl⟩ := Config.accept_eq_ok_iff.1 hr
      exact ⟨_, rfl, rfl, Run.startable_of_mem_commands h⟩

/-! ## Steps -/

namespace Server.Config

/-- Which tools are offered does not depend on how targets are run. -/
theorem tools_executor (cfg : Config) (x : Executor) (c : Catalog) :
    { cfg with executor := x }.tools c = cfg.tools c := by
  have hoffered : ∀ seen ts, { cfg with executor := x }.offeredFrom seen ts =
      cfg.offeredFrom seen ts := by
    intro seen ts
    induction ts generalizing seen with
    | nil => rfl
    | cons t ts ih =>
        simp only [offeredFrom, ih]
        rfl
  exact congrArg _ (hoffered [] c.targets)

end Server.Config

namespace Session

variable {s : Session} {tool : String} {arguments : List (String × Value)} {step : Step}
  {c : Child} {command : List String}

/-- The text that answers a call. -/
def Answer.text? : Answer → Option String
  | .text s | .clientText s _ => some s
  | .changed | .started _ | .tools _ | .state _ _ => none

theorem answer_relist_withExecutor (s : Session) (x : Executor) :
    (s.withExecutor x).relist.2.answer = s.relist.2.answer := by
  have hrefresh : (s.withExecutor x).server.config.refresh s.disk =
      s.server.config.refresh s.disk := rfl
  simp only [relist, Server.list, disk_withExecutor, hrefresh]
  cases s.server.config.refresh s.disk with
  | error r => rfl
  | ok catalog => exact congrArg Except.ok (Server.Config.tools_executor _ x catalog)

/-- The client finds the same tools, however they are run. -/
theorem answer_findTool_withExecutor (s : Session) (x : Executor) (tool : String) :
    ((s.withExecutor x).findTool tool).2.answer = (s.findTool tool).2.answer := by
  have hknown : (s.withExecutor x).known? tool = s.known? tool := rfl
  have hrelist : (s.withExecutor x).relist.1.known = s.relist.1.known :=
    congrArg (fun answer => answer.toOption.getD s.known) (answer_relist_withExecutor s x)
  unfold findTool
  rw [hknown]
  cases s.known? tool with
  | some t => rfl
  | none => simp only [answer_relist_withExecutor, Session.known?, hrelist]

/-- A call that the client does not pass on hands nothing over. -/
theorem handed_of_clientCall_eq {answer : Answer} (h : s.clientCall tool arguments =
      ((s.findTool tool).1, { (s.findTool tool).2 with answer })) :
    Transition.handed ⟨s, .clientCall tool arguments⟩ = [] := by
  obtain ⟨-, -, hrec, hev⟩ := findTool_frame s tool
  simp only [Transition.handed, Transition.after, Transition.reply, Session.step, h, hrec, hev,
    List.drop_length]
  rfl

/-- A call through the client that hands a command over was passed on. -/
theorem exists_passed_of_mem_handed
    (h : command ∈ Transition.handed ⟨s, .clientCall tool arguments⟩) :
    ∃ t, (s.findTool tool).2.answer = .ok t ∧ complaint? t arguments = none := by
  cases hf : (s.findTool tool).2.answer with
  | error r =>
      have hcall : s.clientCall tool arguments = ((s.findTool tool).1,
          { (s.findTool tool).2 with answer := .clientText r.message true }) := by
        simp only [clientCall, hf]
      rw [handed_of_clientCall_eq hcall] at h
      exact absurd h List.not_mem_nil
  | ok t =>
      cases hc : complaint? t arguments with
      | none => exact ⟨t, rfl, hc⟩
      | some complaint =>
          rw [handed_of_clientCall_eq (clientCall_of_complaint hf hc)] at h
          exact absurd h List.not_mem_nil

/-- A call that is passed on comes to the same as a direct call behind the
look-up. -/
theorem clientCall_passed {t : Option Tool} (hf : (s.findTool tool).2.answer = .ok t)
    (hc : complaint? t arguments = none) :
    Transition.handed ⟨s, .clientCall tool arguments⟩ =
        Transition.handed ⟨(s.findTool tool).1, .call tool arguments⟩ ∧
      (s.step (.clientCall tool arguments)).2.answer.text? =
        ((s.findTool tool).1.step (.call tool arguments)).2.answer.text? := by
  obtain ⟨-, -, hrec, -⟩ := findTool_frame s tool
  simp only [Transition.handed, Transition.after, Transition.reply, Session.step,
    clientCall_of_no_complaint hf hc, hrec, true_and]
  rfl

/-- A direct call that starts a command is answered with the report on its
run. -/
theorem text?_step_call_of_mem_handed (hx : s.server.config.executor = .child c)
    (h : command ∈ Transition.handed ⟨s, .call tool arguments⟩) :
    ∃ r, r.timeout = s.server.config.timeout ∧ Run.Startable s.disk r command ∧
      ∀ x, ((s.withExecutor x).step (.call tool arguments)).2.answer.text? =
        some (s.server.config.runText r.target (x.run s.disk r)) := by
  obtain ⟨r, hr, ht, hs⟩ := Server.exists_accepted_of_mem_commands hx h
  refine ⟨r, ht, hs, fun x => ?_⟩
  have hr' : (s.withExecutor x).server.config.accept s.disk tool arguments = .ok r := hr
  exact congrArg some (Server.call_of_accept_eq_ok hr').2.2

/-- A call that starts a command is answered with the report on its run. -/
theorem text?_step_of_mem_handed (hx : s.server.config.executor = .child c)
    (h : command ∈ Transition.handed ⟨s, step⟩) :
    ∃ r, r.timeout = s.server.config.timeout ∧ Run.Startable s.disk r command ∧
      ∀ x, ((s.withExecutor x).step step).2.answer.text? =
        some (s.server.config.runText r.target (x.run s.disk r)) := by
  obtain ⟨_, _, _, hcall, -⟩ := Transition.exists_call_of_mem_handed h
  cases step with
  | call tool arguments => exact text?_step_call_of_mem_handed hx h
  | clientCall tool arguments =>
      obtain ⟨t, hf, hc⟩ := exists_passed_of_mem_handed h
      obtain ⟨hdisk, hconfig, -, -⟩ := findTool_frame s tool
      rw [(clientCall_passed hf hc).1] at h
      obtain ⟨r, ht, hs, hanswer⟩ := text?_step_call_of_mem_handed (hconfig ▸ hx) h
      rw [hdisk, hconfig] at hanswer
      refine ⟨r, hconfig ▸ ht, hdisk ▸ hs, fun x => ?_⟩
      obtain ⟨hdisk', hconfig', -, -⟩ := findTool_frame (s.withExecutor x) tool
      have hf' := (answer_findTool_withExecutor s x tool).trans hf
      have hconfigs : ((s.withExecutor x).findTool tool).1.server.config =
          ((s.findTool tool).1.withExecutor x).server.config := by
        rw [hconfig', withExecutor, withExecutor, hconfig]
      have hdisks : ((s.withExecutor x).findTool tool).1.disk =
          ((s.findTool tool).1.withExecutor x).disk := by
        rw [hdisk', disk_withExecutor, disk_withExecutor, hdisk]
      rw [(clientCall_passed hf' hc).2, step_call_congr hconfigs (.of_eq hdisks), hanswer]
  | change path change => contradiction
  | start => contradiction
  | list => contradiction
  | inspect => contradiction
  | clientList => contradiction

/-- The text that answers a call if its child ends so. -/
def reported? (s : Session) (c : Child) (step : Step) (code : Int) (text : String) :
    Option String :=
  ((s.withExecutor (.child (c.ending code text))).step step).2.answer.text?

/-- A call whose child comes to its end by itself is answered with a heading
and the output. -/
theorem reported?_of_mem_handed (hx : s.server.config.executor = .child c)
    (hf : Run.Finishes c s.server.config.timeout) (h : command ∈ Transition.handed ⟨s, step⟩)
    (code : Int) (text : String) :
    s.reported? c step code text = some (Child.heading command code (c.tick.now - c.now) ++
      Outcome.outputText s.server.config.maxChars text) := by
  obtain ⟨r, ht, hs, hanswer⟩ := text?_step_of_mem_handed hx h
  rw [← ht] at hf
  have hresult : ((Executor.child (c.ending code text)).run s.disk r).result =
      .ok ((c.ending code text).outcome r.target command (c.tick.now - c.now)) :=
    Run.result_withChild_ending hs hf code text
  rw [reported?, hanswer, Server.Config.runText, hresult]
  exact congrArg some (Child.report_outcome_ending _ _)

/-- **Faithful reports**: where a child is run and comes to its end by itself,
the call is answered with a heading, which has the command, the return code and
the time, and with what the child wrote.  An output within the limit stands
there as it is; of a longer one its first characters do, as many as the limit
allows, and the number of those that are left out.  So two such answers are the
same only if the return codes are, and if the outputs are or are both longer
than the limit, of one length, and the same as far as they are shown. -/
theorem reported_iff (hx : s.server.config.executor = .child c)
    (hf : Run.Finishes c s.server.config.timeout) (h : command ∈ Transition.handed ⟨s, step⟩) :
    let m := s.server.config.maxChars
    let heading := fun code => Child.heading command code (c.tick.now - c.now)
    (∀ code text, m ≤ 0 ∨ text.length ≤ m → s.reported? c step code text =
      some (heading code ++ if text = "" then "" else "Output:\n" ++ text ++ "\n")) ∧
    (∀ code text, 0 < m → m < text.length → ∃ shown hidden : String, ∃ omitted : Int,
      text = shown ++ hidden ∧ shown.length = m ∧ omitted + m = text.length ∧
      s.reported? c step code text =
        some (heading code ++ ("Output:\n" ++ shown ++ Outcome.cutNote m omitted))) ∧
    ∀ code code' text text', s.reported? c step code text = s.reported? c step code' text' ↔
      code = code' ∧ (text = text' ∨ 0 < m ∧ m < text.length ∧ m < text'.length ∧
        text.length = text'.length ∧ text.toList.take m.toNat = text'.toList.take m.toNat) := by
  intro m heading
  have hreported : ∀ code text, s.reported? c step code text =
      some (heading code ++ Outcome.outputText m text) := reported?_of_mem_handed hx hf h
  refine ⟨fun code text hle => ?_, fun code text hm hlt => ?_, fun code code' text text' => ?_⟩
  · have hnot : ¬ Outcome.Exceeds m text := by
      unfold Outcome.Exceeds
      omega
    rw [hreported, Outcome.outputText_of_not_exceeds hnot]
    rfl
  · obtain ⟨shown, hidden, omitted, hsplit, hlen, homitted, htext⟩ :=
      Outcome.exists_shown_of_exceeds ⟨hm, hlt⟩
    exact ⟨shown, hidden, omitted, hsplit, hlen, homitted, by rw [hreported, htext]⟩
  · rw [hreported, hreported, Option.some_inj, Child.heading_append_eq_iff,
      Outcome.outputText_eq_iff]

/-- Where three characters are shown, the answers do not tell two outputs of one
length apart that begin with the same three; they do tell their length and the
return code, and an output of three characters is shown in full. -/
theorem reported_of_three_characters :
    let s : Session := { Session.beside "build:\n" [] with
      server := { config := {
        makefile := ⟨.relative, ["Makefile"]⟩, maxChars := 3, executor := .child {} } } }
    let heading := fun code => Child.heading ["make", "-f", "Makefile", "build"] code (0 - 0)
    s.reported? {} (.call "make_build" []) 2 "abcde" =
      s.reported? {} (.call "make_build" []) 2 "abcdf" ∧
    s.reported? {} (.call "make_build" []) 2 "abcde" ≠
      s.reported? {} (.call "make_build" []) 2 "abcd" ∧
    s.reported? {} (.call "make_build" []) 2 "abcde" ≠
      s.reported? {} (.call "make_build" []) 3 "abcde" ∧
    s.reported? {} (.clientCall "make_build" []) 0 "\u00e9\n\n" =
      some (heading 0 ++ "Output:\n\u00e9\n\n\n") := by
  intro s heading
  have hf : Run.Finishes {} s.server.config.timeout := ⟨rfl, by decide +kernel⟩
  have hcall : ["make", "-f", "Makefile", "build"] ∈
      Transition.handed ⟨s, .call "make_build" []⟩ := by decide +kernel
  have hclient : ["make", "-f", "Makefile", "build"] ∈
      Transition.handed ⟨s, .clientCall "make_build" []⟩ := by decide +kernel
  obtain ⟨-, -, hiff⟩ := reported_iff rfl hf hcall
  obtain ⟨hshort, -, -⟩ := reported_iff rfl hf hclient
  refine ⟨(hiff 2 2 _ _).2 ⟨rfl, .inr (by decide)⟩, ?_, ?_, hshort 0 _ (by decide)⟩
  · rw [ne_eq, hiff]
    decide
  · rw [ne_eq, hiff]
    decide

end Session
end MakeTools
