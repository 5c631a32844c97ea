import GraphClient.Graph.Administration
import GraphClient.Proofs.Remote.Exchanges
import GraphClient.Proofs.Text.Trimming
/-
  How a graph is created, whatever its commands come to.

  Key definitions include:
    * `GraphClient.Text.Contains`
    * `GraphClient.Graph.Creates`

  Key theorems include:
    * `GraphClient.Text.occursIn_iff`
    * `GraphClient.Graph.Creates.eq_ok_iff`
    * `GraphClient.Graph.create_protocol`

  A graph that is dropped first is dropped with whatever comes of
  it.  Its types are then created, and only if the output says
  that this has succeeded its queries are installed.
-/

------------------------------------------------------------
-- Parts of Texts
------------------------------------------------------------

namespace GraphClient

namespace Text

/- Whether a text has another one somewhere in it. -/
def Contains
    (whole part : String) :
    Prop :=
  part.toList <:+: whole.toList

/- Searching in characters finds exactly what stands there. -/
theorem occursInChars_iff
    (part whole : List Char) :
    occursInChars part whole = true ↔ part <:+: whole := by
  induction whole with
  | nil =>
      rw [occursInChars, List.isEmpty_iff, List.infix_nil]
  | cons c cs ih =>
      rw [occursInChars, Bool.or_eq_true, ih,
        List.isPrefixOf_iff_prefix, List.infix_cons_iff]

/- Searching in a text finds exactly what it contains. -/
theorem occursIn_iff
    (part whole : String) :
    occursIn part whole = true ↔ Contains whole part :=
  occursInChars_iff part.toList whole.toList

end Text

end GraphClient

------------------------------------------------------------
-- Commands in Sequence
------------------------------------------------------------

namespace GraphClient

namespace Operation

variable {α β : Type}

/-
  A command that is gone on from fails with its call, is refused
  for its output, or leads on.
-/
theorem ensures_bind_command
    {text : String}
    {judge : String → Except GraphError α}
    {next : α → Operation β}
    {P : Except GraphError β → List Exchange → Prop}
    (hFailed :
      ∀ e, P (.error (.remote e)) [⟨.runCommand text, .error e⟩])
    (hRefused :
      ∀ output e, judge output = .error e →
        P (.error e) [⟨.runCommand text, .ok output⟩])
    (hPassed :
      ∀ output a, judge output = .ok a →
        (next a).Ensures (fun r xs =>
          P r (⟨.runCommand text, .ok output⟩ :: xs))) :
    ((Graph.command text judge).bind next).Ensures P := by
  intro (o : Except RemoteError String)
  cases o with
  | error e => exact hFailed e
  | ok output =>
      change (bind (.done (judge output)) next).Ensures _
      cases hJudge : judge output with
      | error e => exact hRefused output e hJudge
      | ok a => exact hPassed output a hJudge

end Operation

end GraphClient

------------------------------------------------------------
-- Creations
------------------------------------------------------------

namespace GraphClient

namespace Graph

/- The call that creates a graph with all of its types. -/
def creationCall
    (g : Graph) :
    Call :=
  .runCommand g.schema.creationScript

/- The call that installs the queries of a graph. -/
def installationCall
    (g : Graph) :
    Call :=
  .runCommand (degreeScript g.name g.options.degreeQuery)

/-
  How creating a graph ends and what has been exchanged for it:
  the script may not be answered or not have succeeded, then the
  installation may not be answered or have left a draft, and only
  if nothing of this was so there is a graph.
-/
inductive Creates
    (g : Graph) :
    Except GraphError Graph → List Exchange → Prop
| unanswered (e : RemoteError) :
    Creates g (.error (.remote e)) [⟨g.creationCall, .error e⟩]
| refused
    {output text : String}
    (hRefused : ¬ Text.Contains output successMark)
    (hText : Text.Trims output text) :
    Creates g (.error (.schemaChange g.name text))
      [⟨g.creationCall, .ok output⟩]
| uninstalled
    {output : String}
    (hCreated : Text.Contains output successMark)
    (e : RemoteError) :
    Creates g (.error (.remote e))
      [⟨g.creationCall, .ok output⟩,
        ⟨g.installationCall, .error e⟩]
| drafted
    {output report text : String}
    (hCreated : Text.Contains output successMark)
    (hDrafted : Text.Contains report draftMark)
    (hText : Text.Trims report text) :
    Creates g (.error (.queryInstall g.options.degreeQuery text))
      [⟨g.creationCall, .ok output⟩,
        ⟨g.installationCall, .ok report⟩]
| installed
    {output report : String}
    (hCreated : Text.Contains output successMark)
    (hInstalled : ¬ Text.Contains report draftMark) :
    Creates g (.ok g)
      [⟨g.creationCall, .ok output⟩,
        ⟨g.installationCall, .ok report⟩]

/- There is a graph only after both commands have succeeded. -/
theorem Creates.eq_ok_iff
    {g : Graph}
    {r : Except GraphError Graph}
    {xs : List Exchange}
    (hCreates : Creates g r xs) :
    r = .ok g ↔
      ∃ output report,
        xs =
            [⟨g.creationCall, .ok output⟩,
              ⟨g.installationCall, .ok report⟩] ∧
          Text.Contains output successMark ∧
          ¬ Text.Contains report draftMark := by
  constructor
  · rintro rfl
    cases hCreates with
    | installed hCreated hInstalled =>
        exact ⟨_, _, rfl, hCreated, hInstalled⟩
  · rintro ⟨output, report, rfl, hCreated, hInstalled⟩
    cases hCreates with
    | drafted _ hDrafted _ => exact (hInstalled hDrafted).elim
    | installed _ _ => rfl

end Graph

end GraphClient

------------------------------------------------------------
-- Main Result
------------------------------------------------------------

namespace GraphClient

namespace Graph

/- Create the types of a graph and then install its queries. -/
def build
    (g : Graph) :
    Operation Graph :=
  g.createTypes.bind (fun _ =>
    g.installQueries.bind (fun _ => Operation.succeed g))

/- The script has succeeded if its output says so. -/
theorem judgeCreation_eq_ok
    {g : Graph}
    {output : String}
    {u : Unit}
    (hJudge : g.judgeCreation output = .ok u) :
    Text.Contains output successMark := by
  unfold judgeCreation at hJudge
  split at hJudge
  · next hMark => exact (Text.occursIn_iff _ _).mp hMark
  · cases hJudge

/- The script has not succeeded if its output does not say so. -/
theorem judgeCreation_eq_error
    {g : Graph}
    {output : String}
    {e : GraphError}
    (hJudge : g.judgeCreation output = .error e) :
    ¬ Text.Contains output successMark ∧
      ∃ text, Text.Trims output text ∧
        e = .schemaChange g.name text := by
  unfold judgeCreation at hJudge
  split at hJudge
  · cases hJudge
  · next hMark =>
      cases hJudge
      rw [Text.occursIn_iff] at hMark
      exact ⟨hMark, _, Text.trims_trim output, rfl⟩

/- Queries are installed if the output says of no draft. -/
theorem judgeInstallation_eq_ok
    {g : Graph}
    {output : String}
    {u : Unit}
    (hJudge : g.judgeInstallation output = .ok u) :
    ¬ Text.Contains output draftMark := by
  unfold judgeInstallation at hJudge
  split at hJudge
  · cases hJudge
  · next hMark => rwa [Text.occursIn_iff] at hMark

/- Queries are not installed if the output says of a draft. -/
theorem judgeInstallation_eq_error
    {g : Graph}
    {output : String}
    {e : GraphError}
    (hJudge : g.judgeInstallation output = .error e) :
    Text.Contains output draftMark ∧
      ∃ text, Text.Trims output text ∧
        e = .queryInstall g.options.degreeQuery text := by
  unfold judgeInstallation at hJudge
  split at hJudge
  · next hMark =>
      cases hJudge
      exact ⟨(Text.occursIn_iff _ _).mp hMark, _,
        Text.trims_trim output, rfl⟩
  · cases hJudge

/- Whatever its commands come to, a graph is so created. -/
theorem ensures_build
    (g : Graph) :
    g.build.Ensures g.Creates := by
  apply Operation.ensures_bind_command
  · exact .unanswered
  · intro output e hJudge
    rcases judgeCreation_eq_error hJudge with
      ⟨hRefused, text, hText, rfl⟩
    exact .refused hRefused hText
  · intro output u hJudge
    have hCreated := judgeCreation_eq_ok hJudge
    apply Operation.ensures_bind_command
    · exact .uninstalled hCreated
    · intro report e hJudge
      rcases judgeInstallation_eq_error hJudge with
        ⟨hDrafted, text, hText, rfl⟩
      exact .drafted hCreated hDrafted hText
    · intro report u hJudge
      exact .installed hCreated (judgeInstallation_eq_ok hJudge)

/-
  What follows the removal of a graph is the same whatever comes
  of the removal.
-/
theorem create_eq
    (config : Config) :
    create config =
      if config.options.dropsExisting then
        .ask
          (.runCommand
            (Schema.removalScript config.schema.graphName))
          (fun _ => (ofConfig config).build)
      else
        (ofConfig config).build := by
  change ((ofConfig config).createSchema
    config.options.dropsExisting).bind _ = _
  cases config.options.dropsExisting with
  | false => rfl
  | true =>
      refine congrArg (Conversation.ask _) ?_
      funext (o : Except RemoteError String)
      cases o <;> rfl

/-
  For every outcome of every command: creating the graph of a
  configuration first drops a graph if that is wanted, and what
  follows does not depend on how this ends.  Then come the
  commands and the result of a creation, which is the graph
  exactly when the output of the script tells of success and the
  installation is answered without a word of a draft.
-/
theorem create_protocol
    {σ : Type}
    (config : Config)
    (service : Service σ)
    (s : σ) :
    (∃ rest : Operation Graph,
        create config =
          if config.options.dropsExisting then
            .ask
              (.runCommand
                (Schema.removalScript config.schema.graphName))
              (fun _ => rest)
          else
            rest) ∧
      ∃ dropped created,
        (create config).exchanges service s =
            dropped ++ created ∧
          dropped.map Exchange.call =
            (if config.options.dropsExisting then
              [.runCommand
                (Schema.removalScript config.schema.graphName)]
            else
              []) ∧
          Creates (ofConfig config)
            ((create config).run service s).1 created ∧
          (((create config).run service s).1 =
              .ok (ofConfig config) ↔
            ∃ output report,
              created =
                  [⟨(ofConfig config).creationCall, .ok output⟩,
                    ⟨(ofConfig config).installationCall,
                      .ok report⟩] ∧
                Text.Contains output successMark ∧
                ¬ Text.Contains report draftMark) := by
  refine ⟨⟨(ofConfig config).build, create_eq config⟩, ?_⟩
  rw [create_eq]
  cases config.options.dropsExisting with
  | false =>
      have hBuild := (ensures_build (ofConfig config)).run service s
      exact ⟨[], _, rfl, rfl, hBuild, hBuild.eq_ok_iff⟩
  | true =>
      -- the state that the removal leaves, whatever comes of it
      have hBuild := (ensures_build (ofConfig config)).run service
        (service.answer
          (.runCommand
            (Schema.removalScript config.schema.graphName)) s).2
      exact ⟨[_], _, rfl, rfl, hBuild, hBuild.eq_ok_iff⟩

end Graph

/- The service that answers commands by waiting outcomes. -/
def Service.scripted :
    Service (List (Except RemoteError String)) where
  answer := fun call outcomes =>
    match call, outcomes with
    | .runCommand _, outcome :: rest => (outcome, rest)
    | call, outcomes =>
        (.error (.unsupported call.verb.name), outcomes)

/- A graph without types, created in place of an older one. -/
def Config.renewal : Config where
  schema := ⟨"Bare", .empty, .empty, rfl⟩
  options := { Options.standard with dropsExisting := true }

/- A graph that could not be dropped is created all the same. -/
theorem Graph.create_protocol_undropped :
    ((create .renewal).run Service.scripted
        [.error .cancelled,
          .ok "Local schema change succeeded.",
          .ok "Saved."]).1 =
      .ok (ofConfig .renewal) := by
  rcases (create_protocol .renewal Service.scripted
      [.error .cancelled, .ok "Local schema change succeeded.",
        .ok "Saved."]).2 with
    ⟨dropped, created, hExchanges, hDropped, _, hOk⟩
  rcases dropped with _ | ⟨first, _ | ⟨second, more⟩⟩
  · cases hDropped
  · refine hOk.mpr
      ⟨_, _, (List.cons.inj hExchanges).2.symm, ?_, ?_⟩
    · exact (Text.occursIn_iff _ _).mp (by decide)
    · exact fun hDraft =>
        absurd ((Text.occursIn_iff _ _).mpr hDraft) (by decide)
  · cases (List.cons.inj hDropped).2

end GraphClient
