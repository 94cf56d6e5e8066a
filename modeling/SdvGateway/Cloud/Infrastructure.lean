import SdvGateway.Cloud.Rules
import SdvGateway.Library.Script

/-! The one-time set-up of the cloud, run any number of times and in any regions. A run makes
what is not there yet, in a fixed order, and can break off at any call. Tables and rules
are those of a region, the role is one for all. -/
namespace SdvGateway.Cloud.Infrastructure
open Common Library Rules Script

/-- The role of the rules, and the tables to which its policy lets it write. -/
structure Role where
  policy : Option (List Str)
deriving DecidableEq

structure Region where
  tables : List Str
  rules : List TopicRule

structure Account where
  role : Option Role
  regions : Str → Region

namespace Account

def update (account : Account) (region : Str) (content : Region) : Account :=
  { account with regions := Function.update account.regions region content }

def addTable (account : Account) (region name : Str) : Account :=
  account.update region
    { account.regions region with tables := (account.regions region).tables ++ [name] }

def addRule (account : Account) (region : Str) (rule : TopicRule) : Account :=
  account.update region
    { account.regions region with rules := (account.regions region).rules ++ [rule] }

end Account

inductive SetupError where
  | clientError
  | resourceInUse
  | resourceNotFound
  | noSuchEntity
  | entityAlreadyExists
  | resourceAlreadyExists
deriving DecidableEq

abbrev Setup := Script SetupError Account

/-- The first page of `list_tables`, and the names that the service gives to the tables of
a region. -/
structure Env where
  listed : List Str → List Str
  listed_subset : ∀ tables, listed tables ⊆ tables
  tableArn : Str → Str → Str

structure Args where
  region : Str
  lambdaArn : Option Str

def request (operation : Account → Except SetupError α × Account) : Setup α :=
  call .clientError operation

def ask (answer : Account → Except SetupError α) : Setup α :=
  request fun account => (answer account, account)

def createTable (env : Env) (region name : Str) (account : Account) :
    Except SetupError Str × Account :=
  if name ∈ (account.regions region).tables then (.error .resourceInUse, account)
  else (.ok (env.tableArn region name), account.addTable region name)

def createDynamoTable (env : Env) (region tableName : Str) : Setup Str := do
  let existing ← ask fun account => .ok (env.listed (account.regions region).tables)
  if tableName ∈ existing then
    ask fun account =>
      if tableName ∈ (account.regions region).tables then .ok (env.tableArn region tableName)
      else .error .resourceNotFound
  else
    let arn ← request (createTable env region tableName)
    ask fun _ => .ok ()
    return arn

def createRole (account : Account) : Except SetupError Unit × Account :=
  match account.role with
  | some _ => (.error .entityAlreadyExists, account)
  | none => (.ok (), { account with role := some ⟨none⟩ })

def putRolePolicy (resources : List Str) (account : Account) :
    Except SetupError Unit × Account :=
  match account.role with
  | some _ => (.ok (), { account with role := some ⟨some resources⟩ })
  | none => (.error .noSuchEntity, account)

/-- The role that is there is taken as it is. -/
def createIotRole (telemetryTableArn anomalyTableArn : Str) : Setup Unit := do
  let found ← Program.tryCatch
    (ask fun account =>
      match account.role with
      | some _ => .ok true
      | none => .error .noSuchEntity)
    fun e => if e = .noSuchEntity then pure false else Program.throw e
  if found then return
  request createRole
  request (putRolePolicy [telemetryTableArn, anomalyTableArn])

def putRule (region : Str) (rule : TopicRule) (account : Account) :
    Except SetupError Unit × Account :=
  if rule.name ∈ (account.regions region).rules.map TopicRule.name then
    (.error .resourceAlreadyExists, account)
  else (.ok (), account.addRule region rule)

def createTopicRule (region : Str) (rule : TopicRule) : Setup Unit :=
  Program.tryCatch (request (putRule region rule))
    fun e => if e = .resourceAlreadyExists then pure () else Program.throw e

def main (env : Env) (args : Args) : Setup Unit := do
  ask fun _ => .ok ()
  let telemetryArn ← createDynamoTable env args.region tableTelemetry
  let anomalyArn ← createDynamoTable env args.region tableAnomalies
  createIotRole telemetryArn anomalyArn
  createTopicRule args.region createTelemetryRule
  createTopicRule args.region (createAnomalyRule args.lambdaArn)

inductive Made where
  | nothing
  | telemetryTable
  | bothTables
  | telemetryRule
  | anomalyRule (lambdaArn : Option Str)

namespace Made

def rung : Made → Nat
  | .nothing => 0
  | .telemetryTable => 1
  | .bothTables => 2
  | .telemetryRule => 3
  | .anomalyRule _ => 4

def tables : Made → List Str
  | .nothing => []
  | .telemetryTable => [tableTelemetry]
  | _ => [tableTelemetry, tableAnomalies]

def rules : Made → List TopicRule
  | .telemetryRule => [createTelemetryRule]
  | .anomalyRule lambdaArn => Rules.rules lambdaArn
  | _ => []

inductive Next (lambdaArn : Option Str) : Made → Made → Prop
  | telemetryTable : Next lambdaArn .nothing .telemetryTable
  | anomalyTable : Next lambdaArn .telemetryTable .bothTables
  | telemetryRule : Next lambdaArn .bothTables .telemetryRule
  | anomalyRule : Next lambdaArn .telemetryRule (.anomalyRule lambdaArn)

theorem Next.eq_of_rung {lambdaArn : Option Str} {made later other : Made}
    (h : Next lambdaArn made later) (hmade : made.rung ≤ other.rung)
    (hlater : ¬later.rung ≤ other.rung) : other = made := by
  cases h <;> cases other <;> simp_all [rung]

end Made

def tableArns (env : Env) (region : Str) : List Str :=
  [env.tableArn region tableTelemetry, env.tableArn region tableAnomalies]

/-- How far they have come everywhere. A role remembers the region of the run that made it,
and whether it got its policy. -/
structure Progress where
  made : Str → Made
  role : Option (Str × Bool)

namespace Progress

def none : Progress := ⟨fun _ => .nothing, .none⟩

def advance (progress : Progress) (region : Str) (made : Made) : Progress :=
  { progress with made := Function.update progress.made region made }

@[simp] theorem advance_made (progress : Progress) (region : Str) (made : Made) :
    (progress.advance region made).made region = made := Function.update_self ..

@[simp] theorem advance_made_of_ne {progress : Progress} {region other : Str} {made : Made}
    (hother : other ≠ region) :
    (progress.advance region made).made other = progress.made other :=
  Function.update_of_ne hother ..

/-- The account with what has been made added to what was there before. -/
def account (env : Env) (start : Account) (progress : Progress) : Account where
  role := progress.role.map fun role => ⟨if role.2 then some (tableArns env role.1) else .none⟩
  regions region :=
    { tables := (start.regions region).tables ++ (progress.made region).tables
      rules := (start.regions region).rules ++ (progress.made region).rules }

/-- What runs with these arguments can add. They leave a role alone that was there before. -/
structure Later (runs : List Args) (before after : Progress) : Prop where
  rung : ∀ region, (before.made region).rung ≤ (after.made region).rung
  lambda : ∀ region arn, after.made region = .anomalyRule arn →
    before.made region = .anomalyRule arn ∨ ⟨region, arn⟩ ∈ runs
  kept : ∀ region arn, before.made region = .anomalyRule arn →
    after.made region = .anomalyRule arn
  others : ∀ region, (∀ args ∈ runs, args.region ≠ region) →
    after.made region = before.made region
  role : ∀ role, before.role = some role → after.role = some role
  maker : ∀ role, after.role = some role →
    before.role = some role ∨ ∃ args ∈ runs, args.region = role.1

end Progress

structure Fresh (start : Account) : Prop where
  role : start.role = none
  telemetryTable : ∀ region, tableTelemetry ∉ (start.regions region).tables
  anomalyTable : ∀ region, tableAnomalies ∉ (start.regions region).tables
  telemetryRule : ∀ region,
    createTelemetryRule.name ∉ (start.regions region).rules.map TopicRule.name
  anomalyRule : ∀ region,
    (createAnomalyRule none).name ∉ (start.regions region).rules.map TopicRule.name

theorem spec_ask {P : Account → Prop} {Q : α → Account → Prop} {E : SetupError → Account → Prop}
    {answer : Account → Except SetupError α} (hfails : ∀ s, P s → E .clientError s)
    (hanswers : ∀ s, P s → match answer s with
      | .ok a => Q a s
      | .error e => E e s) : Spec P (ask answer) Q E := by
  unfold ask request
  apply Spec.call hfails hfails
  intro s hs
  have hs' := hanswers s hs
  cases hanswer : answer s <;> rw [hanswer] at hs' <;> exact hs'

section
variable {P Q R : Account → Prop}

theorem spec_createDynamoTable {env : Env} {region tableName : Str} (hP : ∀ s, P s → R s)
    (hQ : ∀ s, Q s → R s) (hthere : ∀ s, P s → tableName ∈ (s.regions region).tables → Q s)
    (hmade : ∀ s, P s → tableName ∉ (s.regions region).tables →
      Q (s.addTable region tableName)) :
    Spec P (createDynamoTable env region tableName)
      (fun arn s => arn = env.tableArn region tableName ∧ Q s) (fun _ => R) := by
  have hlisted : Spec P (ask fun account => .ok (env.listed (account.regions region).tables))
      (fun existing s => P s ∧ (tableName ∈ existing → tableName ∈ (s.regions region).tables))
      (fun _ => R) :=
    spec_ask hP fun s hs => ⟨hs, fun hmem => env.listed_subset _ hmem⟩
  apply hlisted.bind
  intro existing
  split
  · next hexisting =>
    apply spec_ask
    · exact fun s hs => hP s hs.1
    · intro s hs
      have hmem := hs.2 hexisting
      rw [if_pos hmem]
      exact ⟨rfl, hthere s hs.1 hmem⟩
  · have hcreated : Spec
        (fun s => P s ∧ (tableName ∈ existing → tableName ∈ (s.regions region).tables))
        (request (createTable env region tableName))
        (fun arn s => arn = env.tableArn region tableName ∧ Q s) (fun _ => R) := by
      apply Spec.call
      · exact fun s hs => hP s hs.1
      · rintro s ⟨hs, -⟩
        unfold createTable
        split
        · exact hP s hs
        · next hnew => exact hQ _ (hmade s hs hnew)
      · rintro s ⟨hs, -⟩
        unfold createTable
        by_cases hmem : tableName ∈ (s.regions region).tables
        · rw [if_pos hmem]
          exact hP s hs
        · rw [if_neg hmem]
          exact ⟨rfl, hmade s hs hmem⟩
    apply hcreated.bind
    intro arn
    have hwaited : Spec (fun s => arn = env.tableArn region tableName ∧ Q s)
        (ask fun _ => .ok ()) (fun _ s => arn = env.tableArn region tableName ∧ Q s)
        (fun _ => R) :=
      spec_ask (fun s hs => hQ s hs.2) fun _ hs => hs
    exact hwaited.bind fun _ => Spec.pure fun _ hs => hs

theorem spec_createIotRole {telemetryTableArn anomalyTableArn : Str} (hP : ∀ s, P s → R s)
    (hQ : ∀ s, Q s → R s) (hthere : ∀ s role, P s → s.role = some role → Q s)
    (hhalf : ∀ s, P s → s.role = none → R { s with role := some ⟨none⟩ })
    (hmade : ∀ s, P s → s.role = none →
      Q { s with role := some ⟨some [telemetryTableArn, anomalyTableArn]⟩ }) :
    Spec P (createIotRole telemetryTableArn anomalyTableArn) (fun _ => Q) (fun _ => R) := by
  have hfound : Spec P (Program.tryCatch
      (ask fun account =>
        match account.role with
        | some _ => .ok true
        | none => .error .noSuchEntity)
      fun e => if e = .noSuchEntity then pure false else Program.throw e)
      (fun found s => P s ∧ (if found then ∃ role, s.role = some role else s.role = none))
      (fun _ => R) := by
    apply Spec.tryCatch (F := fun e s => P s ∧ (e = .noSuchEntity → s.role = none))
    · apply spec_ask
      · exact fun s hs => ⟨hs, fun h => by cases h⟩
      · intro s hs
        cases hrole : s.role with
        | some role => exact ⟨hs, role, rfl⟩
        | none => exact ⟨hs, fun _ => rfl⟩
    · intro e
      split
      · next he => exact Spec.pure fun s hs => ⟨hs.1, hs.2 he⟩
      · exact Spec.throw fun s hs => hP s hs.1
  apply hfound.bind
  intro found
  cases found with
  | true => exact Spec.pure fun s ⟨hs, role, hrole⟩ => hthere s role hs hrole
  | false =>
    have hcreated : Spec (fun s => P s ∧ s.role = none) (request createRole)
        (fun _ s => ∃ before, P before ∧ before.role = none ∧
          s = { before with role := some ⟨none⟩ }) (fun _ => R) := by
      apply Spec.call
      · exact fun s hs => hP s hs.1
      · rintro s ⟨hs, hrole⟩
        simp only [createRole, hrole]
        exact hhalf s hs hrole
      · rintro s ⟨hs, hrole⟩
        simp only [createRole, hrole]
        exact ⟨s, hs, hrole, rfl⟩
    refine hcreated.bind fun _ => Spec.call ?_ ?_ ?_
    · rintro s ⟨before, hs, hrole, rfl⟩
      exact hhalf before hs hrole
    · rintro s ⟨before, hs, hrole, rfl⟩
      exact hQ _ (hmade before hs hrole)
    · rintro s ⟨before, hs, hrole, rfl⟩
      exact hmade before hs hrole

theorem spec_createTopicRule {region : Str} {rule : TopicRule} (hP : ∀ s, P s → R s)
    (hQ : ∀ s, Q s → R s)
    (hthere : ∀ s, P s → rule.name ∈ (s.regions region).rules.map TopicRule.name → Q s)
    (hmade : ∀ s, P s → rule.name ∉ (s.regions region).rules.map TopicRule.name →
      Q (s.addRule region rule)) :
    Spec P (createTopicRule region rule) (fun _ => Q) (fun _ => R) := by
  apply Spec.tryCatch (F := fun e s => R s ∧ (e = .resourceAlreadyExists → Q s))
  · apply Spec.call
    · exact fun s hs => ⟨hP s hs, fun h => by cases h⟩
    · intro s hs
      refine ⟨?_, fun h => by cases h⟩
      unfold putRule
      split
      · exact hP s hs
      · next hnew => exact hQ _ (hmade s hs hnew)
    · intro s hs
      unfold putRule
      by_cases hmem : rule.name ∈ (s.regions region).rules.map TopicRule.name
      · rw [if_pos hmem]
        exact ⟨hP s hs, fun _ => hthere s hs hmem⟩
      · rw [if_neg hmem]
        exact hmade s hs hmem
  · intro e
    split
    · next he => exact Spec.pure fun s hs => hs.2 he
    · exact Spec.throw fun s hs => hs.1

end

theorem Progress.Later.refl (runs : List Args) (progress : Progress) :
    progress.Later runs progress where
  rung _ := Nat.le_refl _
  lambda _ _ h := Or.inl h
  kept _ _ h := h
  others _ _ := rfl
  role _ h := h
  maker _ h := Or.inl h

theorem Progress.Later.trans {first second : List Args} {before middle after : Progress}
    (h : before.Later first middle) (h' : middle.Later second after) :
    before.Later (first ++ second) after where
  rung region := Nat.le_trans (h.rung region) (h'.rung region)
  lambda region arn harn := by
    obtain harn | harn := h'.lambda region arn harn
    · exact (h.lambda region arn harn).imp_right (List.mem_append_left _)
    · exact Or.inr (List.mem_append_right _ harn)
  kept region arn harn := h'.kept region arn (h.kept region arn harn)
  others region hothers := by
    rw [h'.others region fun args hargs => hothers args (List.mem_append_right _ hargs),
      h.others region fun args hargs => hothers args (List.mem_append_left _ hargs)]
  role role hrole := h'.role role (h.role role hrole)
  maker role hrole := by
    obtain hrole | ⟨args, hargs, hregion⟩ := h'.maker role hrole
    · obtain hrole | ⟨args, hargs, hregion⟩ := h.maker role hrole
      · exact Or.inl hrole
      · exact Or.inr ⟨args, List.mem_append_left _ hargs, hregion⟩
    · exact Or.inr ⟨args, List.mem_append_right _ hargs, hregion⟩

theorem Progress.Later.mono {runs more : List Args} {before after : Progress}
    (h : before.Later runs after) (hruns : runs ⊆ more) : before.Later more after where
  rung := h.rung
  lambda region arn harn := (h.lambda region arn harn).imp_right fun hmem => hruns hmem
  kept := h.kept
  others region hothers := h.others region fun args hargs => hothers args (hruns hargs)
  role := h.role
  maker role hrole := (h.maker role hrole).imp_right fun ⟨args, hargs, hregion⟩ =>
    ⟨args, hruns hargs, hregion⟩

theorem Progress.later_advance {args : Args} {progress : Progress} {made : Made}
    (hnext : Made.Next args.lambdaArn (progress.made args.region) made) :
    progress.Later [args] (progress.advance args.region made) := by
  generalize hmade : progress.made args.region = old at hnext
  refine ⟨fun region => ?_, fun region arn harn => ?_, fun region arn harn => ?_,
    fun region hothers => ?_, fun _ h => h, fun _ h => Or.inl h⟩
  · by_cases hregion : region = args.region
    · subst hregion
      rw [advance_made, hmade]
      cases hnext <;> simp [Made.rung]
    · rw [advance_made_of_ne hregion]
  · by_cases hregion : region = args.region
    · subst hregion
      rw [advance_made] at harn
      subst harn
      cases hnext
      exact Or.inr (List.mem_singleton_self _)
    · rw [advance_made_of_ne hregion] at harn
      exact Or.inl harn
  · by_cases hregion : region = args.region
    · subst hregion
      rw [hmade] at harn
      subst harn
      cases hnext
    · rwa [advance_made_of_ne hregion]
  · exact advance_made_of_ne (hothers args (List.mem_singleton_self _)).symm

theorem Progress.later_role {args : Args} {progress : Progress} (hrole : progress.role = .none)
    (policy : Bool) :
    progress.Later [args] { progress with role := some (args.region, policy) } := by
  refine ⟨fun _ => Nat.le_refl _, fun _ _ h => Or.inl h, fun _ _ h => h, fun _ _ => rfl,
    fun role h => ?_, fun role h => Or.inr ⟨args, List.mem_singleton_self _, ?_⟩⟩
  · rw [hrole] at h
    cases h
  · cases h
    rfl

section
variable {env : Env} {start account : Account} {args : Args} {before progress : Progress}

theorem account_addTable {region name : Str} {made : Made}
    (htables : (progress.made region).tables ++ [name] = made.tables)
    (hrules : (progress.made region).rules = made.rules) :
    (progress.account env start).addTable region name =
      (progress.advance region made).account env start := by
  refine congrArg₂ Account.mk rfl (funext fun other => ?_)
  by_cases hother : other = region
  · subst hother
    simp [Progress.account, Progress.advance, ← htables, ← hrules]
  · simp [Progress.account, Progress.advance, Function.update_of_ne hother]

theorem account_addRule {region : Str} {rule : TopicRule} {made : Made}
    (htables : (progress.made region).tables = made.tables)
    (hrules : (progress.made region).rules ++ [rule] = made.rules) :
    (progress.account env start).addRule region rule =
      (progress.advance region made).account env start := by
  refine congrArg₂ Account.mk rfl (funext fun other => ?_)
  by_cases hother : other = region
  · subst hother
    simp [Progress.account, Progress.advance, ← htables, ← hrules]
  · simp [Progress.account, Progress.advance, Function.update_of_ne hother]

def At (env : Env) (start : Account) (P : Progress → Prop) (account : Account) : Prop :=
  ∃ progress, account = progress.account env start ∧ P progress

theorem At.mono {P Q : Progress → Prop} (h : At env start P account)
    (himp : ∀ progress, P progress → Q progress) : At env start Q account := by
  obtain ⟨progress, hprogress, hP⟩ := h
  exact ⟨progress, hprogress, himp progress hP⟩

structure Reached (args : Args) (before : Progress) (rung : Nat) (role : Bool)
    (progress : Progress) : Prop where
  later : before.Later [args] progress
  rung : rung ≤ (progress.made args.region).rung
  role : role = true → progress.role.isSome = true

theorem reached_later {rung : Nat} {role : Bool} (account : Account)
    (h : At env start (Reached args before rung role) account) :
    At env start (before.Later [args]) account := h.mono fun _ hprogress => hprogress.later

theorem Reached.advance {rung : Nat} {role : Bool} (h : Reached args before rung role progress)
    {made : Made} (hnext : Made.Next args.lambdaArn (progress.made args.region) made) :
    Reached args before made.rung role (progress.advance args.region made) where
  later := by
    have htrans := h.later.trans (Progress.later_advance hnext)
    exact htrans.mono (by simp)
  rung := by rw [Progress.advance_made]
  role := h.role

section
variable (hfresh : Fresh start)
include hfresh

theorem mem_telemetryTable (progress : Progress) (region : Str) :
    tableTelemetry ∈ ((progress.account env start).regions region).tables ↔
      1 ≤ (progress.made region).rung := by
  rw [Progress.account, List.mem_append, or_iff_right (hfresh.telemetryTable _)]
  cases progress.made region <;> simp [Made.tables, Made.rung]

theorem mem_anomalyTable (progress : Progress) (region : Str) :
    tableAnomalies ∈ ((progress.account env start).regions region).tables ↔
      2 ≤ (progress.made region).rung := by
  have hne : tableAnomalies ≠ tableTelemetry := by decide
  rw [Progress.account, List.mem_append, or_iff_right (hfresh.anomalyTable _)]
  cases progress.made region <;> simp [Made.tables, Made.rung, hne]

theorem mem_telemetryRule (progress : Progress) (region : Str) :
    createTelemetryRule.name ∈
        ((progress.account env start).regions region).rules.map TopicRule.name ↔
      3 ≤ (progress.made region).rung := by
  rw [Progress.account, List.map_append, List.mem_append, or_iff_right (hfresh.telemetryRule _)]
  cases progress.made region <;> simp [Made.rules, Made.rung, Rules.rules]

theorem mem_anomalyRule (lambdaArn : Option Str) (progress : Progress) (region : Str) :
    (createAnomalyRule lambdaArn).name ∈
        ((progress.account env start).regions region).rules.map TopicRule.name ↔
      4 ≤ (progress.made region).rung := by
  have hname (arn : Option Str) : (createAnomalyRule arn).name = (createAnomalyRule none).name :=
    rfl
  have hne : (createAnomalyRule none).name ≠ createTelemetryRule.name := by decide
  rw [hname, Progress.account, List.map_append, List.mem_append,
    or_iff_right (hfresh.anomalyRule _)]
  cases progress.made region <;> simp [Made.rules, Made.rung, Rules.rules, hne, hname]

end

/-- One table more, unless it is there. -/
theorem spec_table {name : Str} {made later : Made} {role : Bool}
    (hmem : ∀ progress : Progress,
      name ∈ ((progress.account env start).regions args.region).tables ↔
        later.rung ≤ (progress.made args.region).rung)
    (hnext : Made.Next args.lambdaArn made later) (htables : made.tables ++ [name] = later.tables)
    (hrules : made.rules = later.rules) :
    Spec (At env start (Reached args before made.rung role))
      (createDynamoTable env args.region name)
      (fun arn s => arn = env.tableArn args.region name ∧
        At env start (Reached args before later.rung role) s)
      (fun _ => At env start (before.Later [args])) := by
  apply spec_createDynamoTable reached_later reached_later
  · rintro _ ⟨progress, rfl, hreached⟩ hthere
    exact ⟨progress, rfl, hreached.later, (hmem progress).mp hthere, hreached.role⟩
  · rintro _ ⟨progress, rfl, hreached⟩ hnew
    have hmade : progress.made args.region = made :=
      hnext.eq_of_rung hreached.rung fun hrung => hnew ((hmem progress).mpr hrung)
    exact ⟨_, account_addTable (by rw [hmade, htables]) (by rw [hmade, hrules]),
      hreached.advance (hmade ▸ hnext)⟩

/-- One rule more, unless it is there. -/
theorem spec_rule {rule : TopicRule} {made later : Made} {role : Bool}
    (hmem : ∀ progress : Progress,
      rule.name ∈ ((progress.account env start).regions args.region).rules.map TopicRule.name ↔
        later.rung ≤ (progress.made args.region).rung)
    (hnext : Made.Next args.lambdaArn made later) (htables : made.tables = later.tables)
    (hrules : made.rules ++ [rule] = later.rules) :
    Spec (At env start (Reached args before made.rung role)) (createTopicRule args.region rule)
      (fun _ => At env start (Reached args before later.rung role))
      (fun _ => At env start (before.Later [args])) := by
  apply spec_createTopicRule reached_later reached_later
  · rintro _ ⟨progress, rfl, hreached⟩ hthere
    exact ⟨progress, rfl, hreached.later, (hmem progress).mp hthere, hreached.role⟩
  · rintro _ ⟨progress, rfl, hreached⟩ hnew
    have hmade : progress.made args.region = made :=
      hnext.eq_of_rung hreached.rung fun hrung => hnew ((hmem progress).mpr hrung)
    exact ⟨_, account_addRule (by rw [hmade, htables]) (by rw [hmade, hrules]),
      hreached.advance (hmade ▸ hnext)⟩

theorem spec_role :
    Spec (At env start (Reached args before 2 false))
      (createIotRole (env.tableArn args.region tableTelemetry)
        (env.tableArn args.region tableAnomalies))
      (fun _ => At env start (Reached args before 2 true))
      (fun _ => At env start (before.Later [args])) := by
  have hmakes {progress : Progress} (hreached : Reached args before 2 false progress)
      (hrole : (progress.account env start).role = none) (policy : Bool) :
      Reached args before 2 true { progress with role := some (args.region, policy) } := by
    have hnone : progress.role = none := Option.map_eq_none_iff.mp hrole
    have htrans := hreached.later.trans (@Progress.later_role args progress hnone policy)
    exact ⟨htrans.mono (by simp), hreached.rung, fun _ => rfl⟩
  apply spec_createIotRole reached_later reached_later
  · rintro _ role ⟨progress, rfl, hreached⟩ hrole
    refine ⟨progress, rfl, hreached.later, hreached.rung, fun _ => ?_⟩
    obtain ⟨maker, hmaker, -⟩ := Option.map_eq_some_iff.mp hrole
    rw [hmaker]
    rfl
  · rintro _ ⟨progress, rfl, hreached⟩ hrole
    exact ⟨_, rfl, (hmakes hreached hrole false).later⟩
  · rintro _ ⟨progress, rfl, hreached⟩ hrole
    exact ⟨_, rfl, hmakes hreached hrole true⟩

theorem spec_main (hfresh : Fresh start) (env : Env) (args : Args) (before : Progress) :
    Spec (· = before.account env start) (main env args)
      (fun _ => At env start (Reached args before 4 true))
      (fun _ => At env start (before.Later [args])) := by
  have hidentity : Spec (· = before.account env start) (ask fun _ => .ok ())
      (fun _ => At env start (Reached args before 0 false))
      (fun _ => At env start (before.Later [args])) :=
    spec_ask (fun s hs => ⟨before, hs, .refl _ _⟩)
      fun s hs => ⟨before, hs, .refl _ _, Nat.zero_le _, fun h => by cases h⟩
  refine hidentity.bind fun _ => (spec_table (mem_telemetryTable hfresh · _)
    .telemetryTable rfl rfl).bind fun telemetryArn => Spec.assume fun htelemetry => ?_
  refine (spec_table (mem_anomalyTable hfresh · _) .anomalyTable rfl rfl).bind
    fun anomalyArn => Spec.assume fun hanomaly => ?_
  rw [htelemetry, hanomaly]
  exact spec_role.bind fun _ => (spec_rule (mem_telemetryRule hfresh · _)
    .telemetryRule rfl rfl).bind fun _ =>
      spec_rule (mem_anomalyRule hfresh args.lambdaArn · _) .anomalyRule rfl rfl

abbrev Run := Args × List Reply

end

def sampleEnv : Env where
  listed := id
  listed_subset _ _ h := h
  tableArn region name :=
    lit "arn:aws:dynamodb:" ++ region ++ lit ":123456789012:table/" ++ name

def sampleArgs : Args := ⟨lit "eu-west-1", none⟩

end SdvGateway.Cloud.Infrastructure
