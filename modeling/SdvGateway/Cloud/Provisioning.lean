import SdvGateway.Cloud.Topics
import SdvGateway.Library.Script

/-! The script that provisions a vehicle. A run issues a certificate in one region, writes it
and its key into a directory and gives it the policy of the vehicle there. It can break off
at any step, and nothing is undone. -/
namespace SdvGateway.Cloud.Provisioning
open Common Library Script Thing Topics

inductive ProvisionError where
  | clientError
  | resourceAlreadyExists
  | resourceNotFound
deriving DecidableEq

/-- What there is in one region. The certificates are numbered as they are issued. All are
active. -/
structure Registry where
  things : List Str
  issued : Nat
  policies : List (Str × List Statement)
  attached : List (Str × Nat)
  principals : List (Str × Nat)

structure Certificate where
  region : Str
  number : Nat
deriving DecidableEq

/-- A file is cut from its opening to the end of the write. -/
inductive Content where
  | absent
  | cut
  | of (certificate : Certificate)
deriving DecidableEq

structure Folder where
  certificatePem : Content
  privateKey : Content
deriving DecidableEq

/-- The registries of the regions, and the files of the one who runs the script. -/
structure World where
  registries : Str → Registry
  folders : Str → Folder

def World.update (s : World) (region : Str) (registry : Registry) : World :=
  { s with registries := Function.update s.registries region registry }

@[simp] theorem World.update_registries (s : World) (region : Str) (registry : Registry) :
    (s.update region registry).registries region = registry :=
  Function.update_self ..

theorem World.update_registries_of_ne (s : World) {region other : Str} (registry : Registry)
    (h : other ≠ region) : (s.update region registry).registries other = s.registries other :=
  Function.update_of_ne h ..

/-- Two paths can lead to one directory. -/
structure Env where
  realpath : Str → Str

structure Args where
  uin : Uin
  region : Str
  outDir : Str

abbrev Provision := Script ProvisionError World

def thingName (uin : Uin) : Str := lit "sdv-gateway-" ++ uin.text

def policyName (uin : Uin) : Str := lit "sdv-gateway-policy-" ++ uin.text

def request (operation : World → Except ProvisionError α × World) : Provision α :=
  call .clientError operation

def unrelated : Provision Unit := request fun s => (.ok (), s)

/-- A thing that is there already is no error, since the script always asks for the same. -/
def createThing (region name : Str) (s : World) : Except ProvisionError Unit × World :=
  let registry := s.registries region
  if name ∈ registry.things then (.ok (), s)
  else (.ok (), s.update region { registry with things := registry.things ++ [name] })

def createKeysAndCertificate (region : Str) (s : World) :
    Except ProvisionError Certificate × World :=
  let registry := s.registries region
  (.ok ⟨region, registry.issued⟩,
    s.update region { registry with issued := registry.issued + 1 })

def writeCertificatePem (folder : Str) (content : Content) (s : World) :
    Except ProvisionError Unit × World :=
  (.ok (), { s with
    folders := Function.update s.folders folder
      { s.folders folder with certificatePem := content } })

def writePrivateKey (folder : Str) (content : Content) (s : World) :
    Except ProvisionError Unit × World :=
  (.ok (), { s with
    folders := Function.update s.folders folder
      { s.folders folder with privateKey := content } })

def createPolicy (region name : Str) (document : List Statement) (s : World) :
    Except ProvisionError Unit × World :=
  let registry := s.registries region
  if name ∈ registry.policies.map Prod.fst then (.error .resourceAlreadyExists, s)
  else (.ok (), s.update region
    { registry with policies := registry.policies ++ [(name, document)] })

/-- The certificate is one of the region. -/
def attachPolicy (region name : Str) (certificate : Nat) (s : World) :
    Except ProvisionError Unit × World :=
  let registry := s.registries region
  if name ∉ registry.policies.map Prod.fst then (.error .resourceNotFound, s)
  else if (name, certificate) ∈ registry.attached then (.ok (), s)
  else (.ok (), s.update region
    { registry with attached := registry.attached ++ [(name, certificate)] })

def attachThingPrincipal (region name : Str) (certificate : Nat) (s : World) :
    Except ProvisionError Unit × World :=
  let registry := s.registries region
  if name ∉ registry.things then (.error .resourceNotFound, s)
  else (.ok (), s.update region
    { registry with principals := registry.principals ++ [(name, certificate)] })

def main (env : Env) (args : Args) : Provision Unit := do
  let folder := env.realpath args.outDir
  unrelated
  request (createThing args.region (thingName args.uin))
  let certificate ← request (createKeysAndCertificate args.region)
  request (writeCertificatePem folder .cut)
  request (writeCertificatePem folder (.of certificate))
  request (writePrivateKey folder .cut)
  request (writePrivateKey folder (.of certificate))
  request (createPolicy args.region (policyName args.uin) (buildPolicyDocument args.uin.text))
  request (attachPolicy args.region (policyName args.uin) certificate.number)
  request (attachThingPrincipal args.region (thingName args.uin) certificate.number)
  unrelated

abbrev Run := Args × List Reply

def Registry.document (registry : Registry) (name : Str) : List Statement :=
  match registry.policies.find? fun policy => policy.1 = name with
  | some policy => policy.2
  | none => []

def Registry.rights (registry : Registry) (certificate : Nat) : List Statement :=
  (registry.attached.filter fun pair => pair.2 = certificate).flatMap fun pair =>
    registry.document pair.1

def World.rights (world : World) (certificate : Certificate) : List Statement :=
  (world.registries certificate.region).rights certificate.number

/-- The certificate may do something on some topic of the vehicle. -/
def Registry.Reaches (registry : Registry) (account : Account) (certificate : Nat)
    (uin : Uin) : Prop :=
  ∃ action, ∃ kind ∈ kinds, ∃ topic ∈ topicsOf uin.text,
    allows (registry.rights certificate) action (account.arn (kind ++ topic)) = true

/-- It connects in the region in which it was issued. -/
def World.Reaches (world : World) (accountNumber : Str) (certificate : Certificate)
    (uin : Uin) : Prop :=
  (world.registries certificate.region).Reaches ⟨certificate.region, accountNumber⟩
    certificate.number uin

inductive Phase where
  | begun
  | issued
  | named
  | granted

namespace Phase

def certificates : Phase → Nat
  | .begun => 0
  | _ => 1

def policies (uin : Uin) : Phase → List (Str × List Statement)
  | .named | .granted => [(policyName uin, buildPolicyDocument uin.text)]
  | _ => []

def attached (uin : Uin) (certificate : Nat) : Phase → List (Str × Nat)
  | .granted => [(policyName uin, certificate)]
  | _ => []

def Writes (before : Folder) (certificate : Certificate) : Phase → Folder → Prop
  | .begun, folder => folder = before
  | .issued, folder =>
    folder.certificatePem ∈ [before.certificatePem, .cut, .of certificate] ∧
      folder.privateKey ∈ [before.privateKey, .cut, .of certificate]
  | _, folder => folder = ⟨.of certificate, .of certificate⟩

end Phase

/-- What a run has changed in the registry of its region when it has come to a phase. -/
structure Grown (uin : Uin) (before : Registry) (phase : Phase) (after : Registry) : Prop where
  issued : after.issued = before.issued + phase.certificates
  policies : after.policies = before.policies ++ phase.policies uin
  new : phase.policies uin ≠ [] → policyName uin ∉ before.policies.map Prod.fst
  attached : after.attached = before.attached ++ phase.attached uin before.issued

def newCertificate (args : Args) (before : World) : Certificate :=
  ⟨args.region, (before.registries args.region).issued⟩

structure Changed (env : Env) (args : Args) (before : World) (phase : Phase) (s : World) :
    Prop where
  grown : Grown args.uin (before.registries args.region) phase (s.registries args.region)
  regions : ∀ region, region ≠ args.region → s.registries region = before.registries region
  elsewhere : ∀ folder, folder ≠ env.realpath args.outDir → s.folders folder = before.folders folder
  written : phase.Writes (before.folders (env.realpath args.outDir)) (newCertificate args before)
    (s.folders (env.realpath args.outDir))

section
variable {env : Env} {args : Args} {before s : World} {phase phase' : Phase}

def Reached (env : Env) (args : Args) (before s : World) : Prop :=
  ∃ phase, Changed env args before phase s

theorem spec_request {P : World → Prop} {Q : α → World → Prop}
    {operation : World → Except ProvisionError α × World}
    (hP : ∀ s, P s → Reached env args before s)
    (hQ : ∀ a s, Q a s → Reached env args before s)
    (hrun : ∀ s, P s → match operation s with
      | (.ok a, s') => Q a s'
      | (.error _, s') => s' = s) :
    Spec P (request operation) Q (fun _ => Reached env args before) := by
  refine Spec.call (E := fun _ => Reached env args before) hP (fun s hs => ?_) fun s hs => ?_
  · have hs' := hrun s hs
    cases hoperation : operation s with
    | mk outcome s' =>
      rw [hoperation] at hs'
      cases outcome with
      | ok a => exact hQ a s' hs'
      | error e => exact hs' ▸ hP s hs
  · have hs' := hrun s hs
    cases hoperation : operation s with
    | mk outcome s' =>
      rw [hoperation] at hs'
      cases outcome with
      | ok a => exact hs'
      | error e => exact hs' ▸ hP s hs

theorem Changed.refl : Changed env args before .begun before where
  grown := {
    issued := rfl
    policies := (List.append_nil _).symm
    new := fun h => absurd rfl h
    attached := (List.append_nil _).symm }
  regions _ _ := rfl
  elsewhere _ _ := rfl
  written := rfl

theorem Changed.update (h : Changed env args before phase s) {registry : Registry}
    (hgrown : Grown args.uin (before.registries args.region) phase' registry)
    (hwritten : phase'.Writes (before.folders (env.realpath args.outDir))
      (newCertificate args before) (s.folders (env.realpath args.outDir))) :
    Changed env args before phase' (s.update args.region registry) where
  grown := by
    rw [World.update_registries]
    exact hgrown
  regions region hne := (s.update_registries_of_ne registry hne).trans (h.regions region hne)
  elsewhere := h.elsewhere
  written := hwritten

theorem spec_unrelated :
    Spec (Changed env args before phase) unrelated (fun _ => Changed env args before phase)
      (fun _ => Reached env args before) :=
  spec_request (fun _ hs => ⟨_, hs⟩) (fun _ _ hs => ⟨_, hs⟩) fun _ hs => hs

theorem spec_createThing (name : Str) :
    Spec (Changed env args before phase) (request (createThing args.region name))
      (fun _ => Changed env args before phase) (fun _ => Reached env args before) := by
  apply spec_request (fun _ hs => ⟨_, hs⟩) (fun _ _ hs => ⟨_, hs⟩)
  intro s hs
  by_cases hthere : name ∈ (s.registries args.region).things
  · rw [createThing, if_pos hthere]
    exact hs
  · rw [createThing, if_neg hthere]
    exact hs.update ⟨hs.grown.issued, hs.grown.policies, hs.grown.new, hs.grown.attached⟩ hs.written

theorem spec_createKeysAndCertificate :
    Spec (Changed env args before .begun) (request (createKeysAndCertificate args.region))
      (fun certificate s => certificate = newCertificate args before ∧
        Changed env args before .issued s) (fun _ => Reached env args before) := by
  apply spec_request (fun _ hs => ⟨_, hs⟩) (fun _ _ hs => ⟨_, hs.2⟩)
  intro s hs
  have hissued : (s.registries args.region).issued = (before.registries args.region).issued :=
    hs.grown.issued
  have hwritten : s.folders (env.realpath args.outDir) =
    before.folders (env.realpath args.outDir) := hs.written
  refine ⟨congrArg (Certificate.mk args.region) hissued, hs.update ⟨congrArg (· + 1) hissued,
    hs.grown.policies, hs.grown.new, hs.grown.attached⟩ ?_⟩
  simp only [Phase.Writes]
  rw [hwritten]
  exact ⟨List.mem_cons_self, List.mem_cons_self⟩

theorem spec_write {operation : World → Except ProvisionError Unit × World}
    (change : Folder → Folder) (R R' : Folder → Prop)
    (hoperation : ∀ s, operation s = (.ok (), { s with
      folders := Function.update s.folders (env.realpath args.outDir)
        (change (s.folders (env.realpath args.outDir))) }))
    (hpem : ∀ folder, (change folder).certificatePem = folder.certificatePem ∨
      (change folder).certificatePem ∈ [Content.cut, .of (newCertificate args before)])
    (hkey : ∀ folder, (change folder).privateKey = folder.privateKey ∨
      (change folder).privateKey ∈ [Content.cut, .of (newCertificate args before)])
    (hR : ∀ folder, R folder → R' (change folder)) :
    Spec (fun s => Changed env args before .issued s ∧ R (s.folders (env.realpath args.outDir)))
      (request operation)
      (fun _ s => Changed env args before .issued s ∧
        R' (s.folders (env.realpath args.outDir)))
      (fun _ => Reached env args before) := by
  apply spec_request (fun _ hs => ⟨_, hs.1⟩) (fun _ _ hs => ⟨_, hs.1⟩)
  rintro s ⟨hs, hfolder⟩
  obtain ⟨hpem', hkey'⟩ := hs.written
  rw [hoperation]
  refine ⟨⟨hs.grown, hs.regions, fun other hne => ?_, ?_⟩, ?_⟩
  · exact (Function.update_of_ne hne _ _).trans (hs.elsewhere other hne)
  · simp only [Phase.Writes, Function.update_self]
    refine ⟨?_, ?_⟩
    · obtain hsame | hnew := hpem (s.folders (env.realpath args.outDir))
      · exact hsame ▸ hpem'
      · exact List.mem_cons_of_mem _ hnew
    · obtain hsame | hnew := hkey (s.folders (env.realpath args.outDir))
      · exact hsame ▸ hkey'
      · exact List.mem_cons_of_mem _ hnew
  · simp only [Function.update_self]
    exact hR _ hfolder

theorem spec_writeCertificatePem {content : Content}
    (hcontent : content ∈ [Content.cut, .of (newCertificate args before)]) :
    Spec (Changed env args before .issued)
      (request (writeCertificatePem (env.realpath args.outDir) content))
      (fun _ s => Changed env args before .issued s ∧
        (s.folders (env.realpath args.outDir)).certificatePem = content)
      (fun _ => Reached env args before) := by
  apply Spec.weaken (spec_write (fun folder => { folder with certificatePem := content })
    (fun _ => True) (fun folder => folder.certificatePem = content) (fun _ => rfl)
    (fun _ => .inr hcontent) (fun _ => .inl rfl) fun _ _ => rfl)
  · exact fun _ hs => ⟨hs, trivial⟩
  · exact fun _ _ hs => hs

theorem spec_writePrivateKey (pem : Content) {content : Content}
    (hcontent : content ∈ [Content.cut, .of (newCertificate args before)]) :
    Spec (fun s => Changed env args before .issued s ∧
        (s.folders (env.realpath args.outDir)).certificatePem = pem)
      (request (writePrivateKey (env.realpath args.outDir) content))
      (fun _ s => Changed env args before .issued s ∧
        s.folders (env.realpath args.outDir) = ⟨pem, content⟩)
      (fun _ => Reached env args before) := by
  apply spec_write (fun folder => { folder with privateKey := content })
    (fun folder => folder.certificatePem = pem) (fun folder => folder = ⟨pem, content⟩)
    (fun _ => rfl) (fun _ => .inl rfl) (fun _ => .inr hcontent)
  rintro folder rfl
  rfl

theorem spec_createPolicy :
    Spec (fun s => Changed env args before .issued s ∧
        s.folders (env.realpath args.outDir) =
          ⟨.of (newCertificate args before), .of (newCertificate args before)⟩)
      (request (createPolicy args.region (policyName args.uin)
        (buildPolicyDocument args.uin.text)))
      (fun _ => Changed env args before .named) (fun _ => Reached env args before) := by
  apply spec_request (fun _ hs => ⟨_, hs.1⟩) (fun _ _ hs => ⟨_, hs⟩)
  rintro s ⟨hs, hfolder⟩
  have hpolicies : (s.registries args.region).policies =
      (before.registries args.region).policies := hs.grown.policies.trans (List.append_nil _)
  by_cases hthere : policyName args.uin ∈ (s.registries args.region).policies.map Prod.fst
  · rw [createPolicy, if_pos hthere]
  · rw [createPolicy, if_neg hthere]
    rw [hpolicies] at hthere
    exact hs.update ⟨hs.grown.issued,
      congrArg (· ++ [(policyName args.uin, buildPolicyDocument args.uin.text)]) hpolicies,
      fun _ => hthere, hs.grown.attached⟩ hfolder

private theorem spec_attachPolicy (hissued : ∀ pair ∈ (before.registries args.region).attached,
      pair.2 < (before.registries args.region).issued) :
    Spec (Changed env args before .named)
      (request (attachPolicy args.region (policyName args.uin)
        (newCertificate args before).number))
      (fun _ => Changed env args before .granted) (fun _ => Reached env args before) := by
  apply spec_request (fun _ hs => ⟨_, hs⟩) (fun _ _ hs => ⟨_, hs⟩)
  intro s hs
  have hattached : (s.registries args.region).attached =
      (before.registries args.region).attached := hs.grown.attached.trans (List.append_nil _)
  have hnew : (policyName args.uin, (newCertificate args before).number) ∉
      (s.registries args.region).attached := by
    rw [hattached]
    exact fun hmem => absurd (hissued _ hmem) (Nat.lt_irrefl _)
  by_cases hmissing : policyName args.uin ∉ (s.registries args.region).policies.map Prod.fst
  · rw [attachPolicy, if_pos hmissing]
  · rw [attachPolicy, if_neg hmissing, if_neg hnew]
    exact hs.update ⟨hs.grown.issued, hs.grown.policies, hs.grown.new,
      congrArg (· ++ [(policyName args.uin, (newCertificate args before).number)]) hattached⟩
      hs.written

private theorem spec_attachThingPrincipal (name : Str) (certificate : Nat) :
    Spec (Changed env args before phase)
      (request (attachThingPrincipal args.region name certificate))
      (fun _ => Changed env args before phase) (fun _ => Reached env args before) := by
  apply spec_request (fun _ hs => ⟨_, hs⟩) (fun _ _ hs => ⟨_, hs⟩)
  intro s hs
  by_cases hmissing : name ∉ (s.registries args.region).things
  · rw [attachThingPrincipal, if_pos hmissing]
  · rw [attachThingPrincipal, if_neg hmissing]
    exact hs.update ⟨hs.grown.issued, hs.grown.policies, hs.grown.new, hs.grown.attached⟩ hs.written

theorem spec_main (hissued : ∀ pair ∈ (before.registries args.region).attached,
      pair.2 < (before.registries args.region).issued) :
    Spec (Changed env args before .begun) (main env args)
      (fun _ => Changed env args before .granted) (fun _ => Reached env args before) := by
  unfold main
  refine spec_unrelated.bind fun _ => (spec_createThing _).bind fun _ => ?_
  refine spec_createKeysAndCertificate.bind fun certificate => Spec.assume ?_
  rintro rfl
  have hcut : Content.cut ∈ [Content.cut, .of (newCertificate args before)] := List.mem_cons_self
  have hwhole : Content.of (newCertificate args before) ∈
      [Content.cut, .of (newCertificate args before)] :=
    List.mem_cons_of_mem _ (List.mem_singleton_self _)
  refine (spec_writeCertificatePem hcut).bind fun _ => ?_
  refine ((spec_writeCertificatePem hwhole).weaken (fun _ hs => hs.1) fun _ _ hs => hs).bind
    fun _ => ?_
  refine (spec_writePrivateKey _ hcut).bind fun _ => ?_
  refine Spec.bind (Spec.weaken (spec_writePrivateKey (.of (newCertificate args before)) hwhole)
    (fun s hs => ⟨hs.1, congrArg Folder.certificatePem hs.2⟩) fun _ _ hs => hs) fun _ => ?_
  refine spec_createPolicy.bind fun _ => (spec_attachPolicy hissued).bind fun _ => ?_
  exact (spec_attachThingPrincipal _ _).bind fun _ => spec_unrelated

end

theorem policyName_inj {uin other : Uin} (h : policyName uin = policyName other) : uin = other := by
  have htext : uin.text = other.text := List.append_cancel_left h
  cases uin
  cases other
  cases htext
  rfl

def Registry.Holds (registry : Registry) (certificate : Nat) (uin : Uin) : Prop :=
  (policyName uin, certificate) ∈ registry.attached

/-- Policies belong to vehicles, and each goes with at most one certificate and back. -/
structure Regular (registry : Registry) : Prop where
  policies : ∀ policy ∈ registry.policies,
    ∃ uin, policy = (policyName uin, buildPolicyDocument uin.text)
  named : ∀ pair ∈ registry.attached, pair.1 ∈ registry.policies.map Prod.fst
  issued : ∀ pair ∈ registry.attached, pair.2 < registry.issued
  oneCertificate : (registry.attached.map Prod.fst).Nodup
  onePolicy : (registry.attached.map Prod.snd).Nodup

section
variable {registry : Registry}

theorem Regular.document (h : Regular registry) {uin : Uin}
    (hthere : policyName uin ∈ registry.policies.map Prod.fst) :
    registry.document (policyName uin) = buildPolicyDocument uin.text := by
  unfold Registry.document
  cases hfind : registry.policies.find? fun policy => policy.1 = policyName uin with
  | none =>
    obtain ⟨policy, hpolicy, hname⟩ := List.mem_map.mp hthere
    exact absurd (decide_eq_true hname) (List.find?_eq_none.mp hfind policy hpolicy)
  | some policy =>
    have hname : policy.1 = policyName uin := by simpa using List.find?_some hfind
    obtain ⟨other, rfl⟩ := h.policies policy (List.mem_of_find?_eq_some hfind)
    rw [policyName_inj hname]

private theorem filter_of_nodup [DecidableEq β] {f : α → β} {l : List α} (h : (l.map f).Nodup)
    {a : α} (ha : a ∈ l) : (l.filter fun b => f b = f a) = [a] := by
  induction l with
  | nil => cases ha
  | cons b rest ih =>
    obtain ⟨hb, hrest⟩ := List.nodup_cons.mp h
    obtain rfl | ha := List.mem_cons.mp ha
    · have hnone : (rest.filter fun b => f b = f a) = [] := by
        rw [List.filter_eq_nil_iff]
        intro other hother hsame
        exact hb (of_decide_eq_true hsame ▸ List.mem_map_of_mem hother)
      rw [List.filter_cons_of_pos (by simp), hnone]
    · have hne : f b ≠ f a := fun heq => hb (heq ▸ List.mem_map_of_mem ha)
      rw [List.filter_cons_of_neg (by simpa using hne), ih hrest ha]

theorem Regular.rights_of_holds (h : Regular registry) {certificate : Nat} {uin : Uin}
    (hholds : registry.Holds certificate uin) :
    registry.rights certificate = buildPolicyDocument uin.text := by
  have hone : (registry.attached.filter fun pair => pair.2 = certificate) =
      [(policyName uin, certificate)] := filter_of_nodup h.onePolicy hholds
  rw [Registry.rights, hone, List.flatMap_singleton]
  exact h.document (h.named _ hholds)

theorem Regular.holds_of_mem (h : Regular registry) {pair : Str × Nat}
    (hpair : pair ∈ registry.attached) : ∃ uin, pair.1 = policyName uin ∧
      registry.Holds pair.2 uin := by
  obtain ⟨policy, hpolicy, hname⟩ := List.mem_map.mp (h.named pair hpair)
  obtain ⟨uin, rfl⟩ := h.policies policy hpolicy
  refine ⟨uin, hname.symm, ?_⟩
  have hmem : (pair.1, pair.2) ∈ registry.attached := hpair
  rwa [← hname] at hmem

theorem Regular.rights_of_not (h : Regular registry) {certificate : Nat}
    (hnone : ∀ uin, ¬registry.Holds certificate uin) : registry.rights certificate = [] := by
  have hempty : (registry.attached.filter fun pair => pair.2 = certificate) = [] := by
    rw [List.filter_eq_nil_iff]
    intro pair hpair hsame
    obtain ⟨uin, -, hholds⟩ := h.holds_of_mem hpair
    exact hnone uin (of_decide_eq_true hsame ▸ hholds)
  rw [Registry.rights, hempty]
  rfl

theorem Regular.eq_of_holds (h : Regular registry) {certificate other : Nat} {uin vehicle : Uin}
    (hholds : registry.Holds certificate uin) (hother : registry.Holds other vehicle) :
    certificate = other ↔ uin = vehicle := by
  refine ⟨fun heq => ?_, fun heq => ?_⟩
  · have hpair := List.inj_on_of_nodup_map h.onePolicy hholds hother heq
    exact policyName_inj (congrArg Prod.fst hpair)
  · have hpair := List.inj_on_of_nodup_map h.oneCertificate hholds hother
      (congrArg policyName heq)
    exact congrArg Prod.snd hpair

theorem Regular.holds_of_reaches (h : Regular registry) {account : Account} {certificate : Nat}
    {uin : Uin} (hreaches : registry.Reaches account certificate uin) :
    registry.Holds certificate uin := by
  obtain ⟨action, kind, hkind, topic, htopic, hallows⟩ := hreaches
  by_cases hholds : ∃ holder, registry.Holds certificate holder
  · obtain ⟨holder, hholder⟩ := hholds
    rw [h.rights_of_holds hholder] at hallows
    by_cases heq : uin = holder
    · exact heq ▸ hholder
    · have hne : uin.text ≠ holder.text := by
        intro htext
        exact heq (policyName_inj (congrArg (lit "sdv-gateway-policy-" ++ ·) htext))
      rw [not_allowed_of_other account hne hkind htopic action] at hallows
      cases hallows
  · rw [h.rights_of_not fun holder hholder => hholds ⟨holder, hholder⟩] at hallows
    cases hallows

theorem Regular.reaches_of_holds (h : Regular registry) (account : Account) {certificate : Nat}
    {uin : Uin} (hholds : registry.Holds certificate uin) :
    registry.Reaches account certificate uin := by
  refine ⟨.publish, lit "topic/", List.mem_cons_self, _, topicOf_mem uin.text .telemetry, ?_⟩
  rw [h.rights_of_holds hholds, allows_iff account uin .publish
    (topic_plain (topicOf_mem uin.text .telemetry) List.mem_cons_self)]
  exact publish_granted uin.text .telemetry

end

/-- What later runs leave of a registry. A new pair has a new name and a new certificate. -/
structure Later (before after : Registry) : Prop where
  issued : before.issued ≤ after.issued
  policies : before.policies <+: after.policies
  attached : before.attached <+: after.attached
  added : ∀ pair ∈ after.attached, pair ∈ before.attached ∨
    pair.1 ∉ before.policies.map Prod.fst ∧ before.issued ≤ pair.2

theorem Later.refl (registry : Registry) : Later registry registry where
  issued := Nat.le_refl _
  policies := List.prefix_rfl
  attached := List.prefix_rfl
  added _ h := .inl h

theorem Later.trans {before middle after : Registry} (h : Later before middle)
    (h' : Later middle after) : Later before after where
  issued := h.issued.trans h'.issued
  policies := h.policies.trans h'.policies
  attached := h.attached.trans h'.attached
  added pair hpair := by
    obtain hmiddle | ⟨hname, hissued⟩ := h'.added pair hpair
    · exact h.added pair hmiddle
    · refine .inr ⟨fun hmem => hname ?_, h.issued.trans hissued⟩
      exact (h.policies.map Prod.fst).subset hmem

theorem Later.rights {before after : Registry} (h : Later before after) (hbefore : Regular before)
    (hafter : Regular after) {certificate : Nat} (hcertificate : certificate < before.issued) :
    after.rights certificate = before.rights certificate := by
  by_cases hholds : ∃ uin, before.Holds certificate uin
  · obtain ⟨uin, hholds⟩ := hholds
    rw [hbefore.rights_of_holds hholds, hafter.rights_of_holds (h.attached.subset hholds)]
  · have hnone (uin : Uin) : ¬after.Holds certificate uin := by
      intro hlater
      obtain hthere | ⟨-, hnew⟩ := h.added _ hlater
      · exact hholds ⟨uin, hthere⟩
      · exact absurd hnew (Nat.not_le_of_lt hcertificate)
    rw [hafter.rights_of_not hnone, hbefore.rights_of_not fun uin hthere => hholds ⟨uin, hthere⟩]

section
variable {uin : Uin} {before after : Registry} {phase : Phase}

theorem Grown.later (h : Grown uin before phase after) : Later before after where
  issued := h.issued ▸ Nat.le_add_right _ _
  policies := h.policies ▸ List.prefix_append _ _
  attached := h.attached ▸ List.prefix_append _ _
  added pair hpair := by
    rw [h.attached, List.mem_append] at hpair
    refine hpair.imp_right fun hpair => ?_
    cases phase with
    | granted =>
      rw [List.mem_singleton.mp hpair]
      exact ⟨h.new (List.cons_ne_nil _ _), Nat.le_refl _⟩
    | begun | issued | named => cases hpair

theorem Grown.regular (h : Grown uin before phase after) (hregular : Regular before) :
    Regular after := by
  have hpolicies : ∀ policy ∈ after.policies,
      ∃ uin, policy = (policyName uin, buildPolicyDocument uin.text) := by
    intro policy hpolicy
    rw [h.policies, List.mem_append] at hpolicy
    obtain hold | hnew := hpolicy
    · exact hregular.policies policy hold
    · cases phase with
      | named | granted => exact ⟨uin, List.mem_singleton.mp hnew⟩
      | begun | issued => cases hnew
  have hkept : ∀ name ∈ before.policies.map Prod.fst, name ∈ after.policies.map Prod.fst :=
    fun name hname => (h.later.policies.map Prod.fst).subset hname
  cases phase with
  | granted =>
    have hnew := h.new (List.cons_ne_nil _ _)
    have hattached : after.attached = before.attached ++ [(policyName uin, before.issued)] :=
      h.attached
    refine ⟨hpolicies, fun pair hpair => ?_, fun pair hpair => ?_, ?_, ?_⟩
    · rw [hattached, List.mem_append] at hpair
      obtain hold | hnew := hpair
      · exact hkept _ (hregular.named pair hold)
      · rw [List.mem_singleton.mp hnew, h.policies, List.map_append]
        exact List.mem_append_right _ (List.mem_singleton_self _)
    · rw [hattached, List.mem_append] at hpair
      obtain hold | hnew := hpair
      · exact (hregular.issued pair hold).trans_le h.later.issued
      · rw [List.mem_singleton.mp hnew, h.issued]
        exact Nat.lt_succ_self _
    · rw [hattached, List.map_append]
      refine hregular.oneCertificate.append (List.nodup_singleton _)
        (List.disjoint_singleton.mpr fun hmem => hnew ?_)
      obtain ⟨pair, hpair, hname⟩ := List.mem_map.mp hmem
      have hnamed := hregular.named pair hpair
      rwa [hname] at hnamed
    · rw [hattached, List.map_append]
      refine hregular.onePolicy.append (List.nodup_singleton _)
        (List.disjoint_singleton.mpr fun hmem => ?_)
      obtain ⟨pair, hpair, hcertificate⟩ := List.mem_map.mp hmem
      exact absurd hcertificate (Nat.ne_of_lt (hregular.issued pair hpair))
  | begun | issued | named =>
    have hattached : after.attached = before.attached := h.attached.trans (List.append_nil _)
    refine ⟨hpolicies, ?_, ?_, ?_, ?_⟩ <;> rw [hattached]
    · exact fun pair hpair => hkept _ (hregular.named pair hpair)
    · exact fun pair hpair => (hregular.issued pair hpair).trans_le h.later.issued
    · exact hregular.oneCertificate
    · exact hregular.onePolicy

end

def World.Regular (world : World) : Prop :=
  ∀ region, Provisioning.Regular (world.registries region)

theorem Changed.step {env : Env} {args : Args} {before s : World} {phase : Phase}
    (h : Changed env args before phase s) (hregular : before.Regular) :
    s.Regular ∧ ∀ region, Later (before.registries region) (s.registries region) := by
  refine ⟨fun region => ?_, fun region => ?_⟩
  · by_cases hregion : region = args.region
    · subst hregion
      exact h.grown.regular (hregular _)
    · rw [h.regions region hregion]
      exact hregular region
  · by_cases hregion : region = args.region
    · subst hregion
      exact h.grown.later
    · rw [h.regions region hregion]
      exact .refl _

theorem main_changed {before : World} (hregular : before.Regular) (env : Env) (run : Run) :
    ∃ phase, Changed env run.1 before phase (main env run.1 ⟨before, run.2⟩).state.service ∧
      (Completes (main env run.1) before run.2 → phase = .granted) := by
  have hmain : Spec (Changed env run.1 before .begun) (main env run.1)
      (fun _ => Changed env run.1 before .granted) (fun _ => Reached env run.1 before) :=
    spec_main (hregular run.1.region).issued
  obtain ⟨⟨phase, hphase⟩, hgranted⟩ := hmain.service (fun _ _ hs => ⟨_, hs⟩) .refl run.2
  by_cases hcompletes : Completes (main env run.1) before run.2
  · obtain ⟨_, hchanged⟩ := hgranted hcompletes
    exact ⟨.granted, hchanged, fun _ => rfl⟩
  · exact ⟨phase, hphase, fun h => absurd h hcompletes⟩

def newAccount (issued : Str → Nat) (folders : Str → Folder) : World where
  registries region := ⟨[], issued region, [], [], []⟩
  folders := folders

theorem regular_newAccount (issued : Str → Nat) (folders : Str → Folder) :
    (newAccount issued folders).Regular := fun _ => {
  policies := fun _ h => absurd h List.not_mem_nil
  named := fun _ h => absurd h List.not_mem_nil
  issued := fun _ h => absurd h List.not_mem_nil
  oneCertificate := List.nodup_nil
  onePolicy := List.nodup_nil }

theorem runs_later (env : Env) (runs : List Run) {before : World} (hregular : before.Regular) :
    (Script.runs (main env) before runs).Regular ∧ ∀ region,
      Later (before.registries region)
        ((Script.runs (main env) before runs).registries region) := by
  induction runs generalizing before with
  | nil => exact ⟨hregular, fun _ => .refl _⟩
  | cons run rest ih =>
    obtain ⟨phase, hchanged, -⟩ := main_changed hregular env run
    obtain ⟨hnext, hlater⟩ := hchanged.step hregular
    obtain ⟨hrest, hmore⟩ := ih hnext
    exact ⟨hrest, fun region => (hlater region).trans (hmore region)⟩

theorem runs_elsewhere (env : Env) (folder : Str) (runs : List Run) {before : World}
    (hregular : before.Regular) (hother : ∀ run ∈ runs, env.realpath run.1.outDir ≠ folder) :
    (Script.runs (main env) before runs).folders folder = before.folders folder := by
  induction runs generalizing before with
  | nil => rfl
  | cons run rest ih =>
    obtain ⟨hrun, hrest⟩ := List.forall_mem_cons.mp hother
    obtain ⟨phase, hchanged, -⟩ := main_changed hregular env run
    exact (ih (hchanged.step hregular).1 hrest).trans (hchanged.elsewhere folder hrun.symm)

def sampleEnv : Env := ⟨id⟩

def sampleWorld : World := newAccount (fun _ => 0) fun _ => ⟨.absent, .absent⟩

private theorem sample_letters : ∀ byte ∈ lit "VIN1", isLetterOrDigit byte = true :=
  List.all_eq_true.mp rfl

private theorem other_letters : ∀ byte ∈ lit "VIN2", isLetterOrDigit byte = true :=
  List.all_eq_true.mp rfl

def sampleArgs : Args := ⟨⟨_, sample_letters⟩, lit "eu-west-1", lit "certs"⟩

def otherArgs : Args := ⟨⟨_, other_letters⟩, lit "eu-west-1", lit "certs"⟩

def allDone : List Reply := List.replicate 11 .done

/-- Whatever runs there have been, and however they broke off: a certificate reaches one
vehicle at most, and a vehicle is reached by one certificate of a region at most. -/
theorem certificates_partition (env : Env) (issued : Str → Nat) (folders : Str → Folder)
    (runs : List Run) (accountNumber : Str) (certificate other : Certificate)
    (uin vehicle : Uin) :
    let world := Script.runs (main env) (newAccount issued folders) runs
    world.Reaches accountNumber certificate uin → world.Reaches accountNumber other vehicle →
      (certificate = other → uin = vehicle) ∧
        (certificate.region = other.region → uin = vehicle → certificate = other) := by
  intro world hreaches hother
  obtain ⟨region, number⟩ := certificate
  obtain ⟨region', number'⟩ := other
  have hregular : world.Regular := (runs_later env runs (regular_newAccount _ _)).1
  have hholds := (hregular region).holds_of_reaches hreaches
  have hholds' := (hregular region').holds_of_reaches hother
  refine ⟨fun heq => ?_, fun hregion huin => ?_⟩
  · cases heq
    exact ((hregular region).eq_of_holds hholds hholds').mp rfl
  · change region = region' at hregion
    subst hregion
    exact congrArg _ (((hregular region).eq_of_holds hholds hholds').mpr huin)

theorem certificates_partition_sample :
    let world := Script.runs (main sampleEnv) (newAccount (fun _ => 0) fun _ => ⟨.absent, .absent⟩)
      [(sampleArgs, allDone), (otherArgs, allDone)]
    world.Reaches (lit "123456789012") ⟨lit "eu-west-1", 0⟩ sampleArgs.uin ∧
      (∀ vehicle, world.Reaches (lit "123456789012") ⟨lit "eu-west-1", 0⟩ vehicle →
        sampleArgs.uin = vehicle) ∧
      ∀ number, world.Reaches (lit "123456789012") ⟨lit "eu-west-1", number⟩ sampleArgs.uin →
        ⟨lit "eu-west-1", 0⟩ = (⟨lit "eu-west-1", number⟩ : Certificate) := by
  intro world
  have hregular := (runs_later sampleEnv [(sampleArgs, allDone), (otherArgs, allDone)]
    (regular_newAccount (fun _ => 0) fun _ => ⟨.absent, .absent⟩)).1 (lit "eu-west-1")
  have hreaches := hregular.reaches_of_holds ⟨lit "eu-west-1", lit "123456789012"⟩
    (show Registry.Holds _ 0 sampleArgs.uin from List.mem_cons_self)
  have hpartition := certificates_partition sampleEnv (fun _ => 0)
    (fun _ => ⟨.absent, .absent⟩) [(sampleArgs, allDone), (otherArgs, allDone)]
    (lit "123456789012") ⟨lit "eu-west-1", 0⟩
  exact ⟨hreaches, fun vehicle hvehicle => (hpartition _ _ vehicle hreaches hvehicle).1 rfl,
    fun number hnumber => (hpartition ⟨_, number⟩ _ _ hreaches hnumber).2 rfl rfl⟩

/-- After a run that completes its certificate has the rights of the vehicle for ever, and
the pair of files stays as long as no run writes to the same directory. -/
theorem provisioned_for_good (env : Env) (issued : Str → Nat) (folders : Str → Folder)
    (first : List Run) (args : Args) (replies : List Reply) (more : List Run)
    (hcompletes : Completes (main env args)
      (Script.runs (main env) (newAccount issued folders) first) replies) :
    let world := Script.runs (main env) (newAccount issued folders)
      (first ++ (args, replies) :: more)
    ∃ certificate, certificate.region = args.region ∧
      world.rights certificate = buildPolicyDocument args.uin.text ∧
      ((∀ run ∈ more, env.realpath run.1.outDir ≠ env.realpath args.outDir) →
        world.folders (env.realpath args.outDir) = ⟨.of certificate, .of certificate⟩) := by
  intro world
  have hbefore := (runs_later env first (regular_newAccount issued folders)).1
  generalize hstart : Script.runs (main env) (newAccount issued folders) first = before at *
  have hworld : world =
      Script.runs (main env) (main env args ⟨before, replies⟩).state.service more := by
    change Script.runs (main env) _ _ = _
    rw [runs_append, hstart]
    rfl
  obtain ⟨phase, hchanged, hphase⟩ := main_changed hbefore env (args, replies)
  cases hphase hcompletes
  have hafter := (hchanged.step hbefore).1
  obtain ⟨hregular, hlater⟩ := runs_later env more hafter
  have hholds : ((main env args ⟨before, replies⟩).state.service.registries args.region).Holds
      (newCertificate args before).number args.uin := by
    rw [Registry.Holds, hchanged.grown.attached]
    exact List.mem_append_right _ (List.mem_singleton_self _)
  refine ⟨newCertificate args before, rfl, ?_, fun hother => ?_⟩
  · rw [hworld]
    exact (hregular args.region).rights_of_holds ((hlater args.region).attached.subset hholds)
  · rw [hworld, runs_elsewhere env _ more hafter hother]
    exact hchanged.written

/-- The first run gives its certificate the policy, and the second still writes both files. -/
theorem provisioned_for_good_sample :
    ∃ certificate : Certificate, certificate.region = lit "eu-west-1" ∧
      (Script.runs (main sampleEnv) sampleWorld
        [(sampleArgs, allDone), (sampleArgs, allDone)]).rights certificate =
          buildPolicyDocument sampleArgs.uin.text := by
  have hcompletes : Completes (main sampleEnv sampleArgs)
      (Script.runs (main sampleEnv) sampleWorld []) allDone := ⟨(), by rfl⟩
  obtain ⟨certificate, hregion, hrights, -⟩ := provisioned_for_good sampleEnv (fun _ => 0) _ []
    sampleArgs allDone [(sampleArgs, allDone)] hcompletes
  exact ⟨certificate, hregion, hrights⟩

/-- What a file holds after a run that gives nothing away. -/
def Powerless (world : World) (before after : Content) : Prop :=
  after = before ∨ after = .cut ∨ ∃ certificate, after = .of certificate ∧
    world.rights certificate = []

/-- Once there is a policy for a vehicle in a region, by a run that completed or by one that
broke off after that, another run for the vehicle in that region raises and gives no
certificate any rights. The files that it leaves are the old ones, cut, or those of a
certificate that never has any. -/
theorem rerun_powerless (env : Env) (issued : Str → Nat) (folders : Str → Folder)
    (first : List Run) (args : Args) (replies : List Reply) (more : List Run)
    (hthere : policyName args.uin ∈ ((Script.runs (main env) (newAccount issued folders)
      first).registries args.region).policies.map Prod.fst) :
    let before := Script.runs (main env) (newAccount issued folders) first
    let after := (main env args ⟨before, replies⟩).state.service
    let later := Script.runs (main env) after more
    let folder := env.realpath args.outDir
    ¬Completes (main env args) before replies ∧
      (∀ certificate, after.rights certificate = before.rights certificate) ∧
      Powerless later (before.folders folder).certificatePem
        (after.folders folder).certificatePem ∧
      Powerless later (before.folders folder).privateKey (after.folders folder).privateKey := by
  intro before after later folder
  have hbefore : before.Regular := (runs_later env first (regular_newAccount issued folders)).1
  obtain ⟨phase, hchanged, hphase⟩ := main_changed hbefore env (args, replies)
  have hafter : after.Regular := (hchanged.step hbefore).1
  obtain ⟨hregular, hlater⟩ := runs_later env more hafter
  have hidle : phase.policies args.uin = [] := by
    by_contra hne
    exact hchanged.grown.new hne hthere
  have hrights (certificate : Certificate) :
      after.rights certificate = before.rights certificate := by
    by_cases hregion : certificate.region = args.region
    · have hpolicies : (after.registries args.region).policies =
          (before.registries args.region).policies := by
        rw [hchanged.grown.policies, hidle, List.append_nil]
      have hattached : (after.registries args.region).attached =
          (before.registries args.region).attached := by
        cases phase with
        | begun | issued | named => exact hchanged.grown.attached.trans (List.append_nil _)
        | granted => cases hidle
      unfold World.rights Registry.rights Registry.document
      rw [hregion, hpolicies, hattached]
    · unfold World.rights
      rw [hchanged.regions _ hregion]
  refine ⟨fun hcompletes => ?_, hrights, ?_⟩
  · cases hphase hcompletes
    cases hidle
  cases phase with
  | named | granted => cases hidle
  | begun =>
    have hsame : after.folders folder = before.folders folder := hchanged.written
    rw [hsame]
    exact ⟨.inl rfl, .inl rfl⟩
  | issued =>
    have hnever : later.rights (newCertificate args before) = [] := by
      have hthere' : (newCertificate args before).number <
          (after.registries args.region).issued :=
        hchanged.grown.issued ▸ Nat.lt_succ_self _
      have hkept := (hlater args.region).rights (hafter _) (hregular _) hthere'
      refine hkept.trans ((hrights (newCertificate args before)).trans ?_)
      apply (hbefore args.region).rights_of_not
      exact fun uin hholds => absurd ((hbefore args.region).issued _ hholds) (Nat.lt_irrefl _)
    have hpowerless {old new : Content}
        (hnew : new ∈ [old, .cut, .of (newCertificate args before)]) :
        Powerless later old new := by
      simp only [List.mem_cons, List.not_mem_nil, or_false] at hnew
      exact hnew.imp_right fun hnew => hnew.imp_right fun hnew => ⟨_, hnew, hnever⟩
    exact ⟨hpowerless hchanged.written.1, hpowerless hchanged.written.2⟩

theorem rerun_powerless_sample :
    ¬Completes (main sampleEnv sampleArgs)
      (Script.runs (main sampleEnv) sampleWorld [(sampleArgs, allDone)]) allDone :=
  (rerun_powerless sampleEnv (fun _ => 0) _ [(sampleArgs, allDone)] sampleArgs allDone []
    (by decide)).1

end SdvGateway.Cloud.Provisioning
