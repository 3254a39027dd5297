import ImageBuild.Cluster.ServiceAccount
import ImageBuild.Proofs.Names
import ImageBuild.Proofs.Except

/-!
# The credentials of a service account

All secrets of an account are read before the first of them is turned into a credential, and
each name stays with what was read under it. So an account gives one credential for each of
its names that is in the cluster, however often it names it. The main statement is
`resolve_paired`.
-/
namespace ImageBuild

theorem Secret.exists_credential {s : Secret} {name : String} (h : s.metadata.name = some name)
    (hname : name ≠ "") : ∃ cred, s.credential = some cred ∧ cred.name = name := by
  have hkept : (some name).filter (fun n => !n.isEmpty) = some name := by simp [hname]
  rw [Secret.credential, h, hkept]
  exact ⟨_, rfl, rfl⟩

namespace Cluster

variable {c : Cluster} {space name : String} {ns : List String} {creds : List Credential}

/-- A secret is found under its own name. -/
def FindsByName (c : Cluster) : Prop :=
  ∀ space name s, c.secret space name = .found s → s.metadata.name = some name

/-- Whether there is a secret with the name. -/
def holdsSecret (c : Cluster) (space name : String) : Bool :=
  match c.secret space name with
  | .found _ => true
  | _ => false

/-- The secret with a name, if there is one. -/
def secret? (c : Cluster) (space name : String) : Except ResolveError (Option Secret) :=
  match c.secret space name with
  | .found s => .ok (some s)
  | .missing => .ok none
  | .failed => .error (.secret space name)

/-- The credential is that of the secret with this name. -/
def Gives (c : Cluster) (space name : String) (cred : Credential) : Prop :=
  cred.name = name ∧ ∃ s, c.secret space name = .found s ∧ s.credential = some cred

/-- The credentials of the names that have one. -/
def paired (ns : List String) (read : List (Option Secret)) : List Credential :=
  (ns.zip read).filterMap fun p => p.2.bind Secret.credential

theorem credential?_eq (c : Cluster) (space name : String) :
    c.credential? space name = (c.secret? space name).map (Option.bind · Secret.credential) := by
  unfold credential? secret?
  cases c.secret space name <;> rfl

/-- It makes no difference whether the credentials are made while the secrets are read or
from all that was read. -/
theorem credentials_eq_paired (c : Cluster) (space : String) (ns : List String) :
    c.credentials space ns = (ns.mapM (c.secret? space)).map (paired ns) := by
  induction ns with
  | nil => rfl
  | cons n ns ih =>
    rw [credentials, credential?_eq, ih, List.mapM_cons]
    cases c.secret? space n with
    | error e => rfl
    | ok found =>
      cases ns.mapM (c.secret? space) with
      | error e => rfl
      | ok read =>
        cases h : found.bind Secret.credential <;> simp [Except.map, bind, Except.bind, pure,
          Except.pure, paired, h]

theorem exists_secret?_eq_error_iff :
    (∃ e, c.secret? space name = .error e) ↔ c.secret space name = .failed := by
  unfold secret?
  cases c.secret space name <;> simp

theorem exists_credentials_eq_error_iff :
    (∃ e, c.credentials space ns = .error e) ↔ ∃ n ∈ ns, c.secret space n = .failed := by
  have hmap : ∀ x : Except ResolveError (List (Option Secret)),
      (∃ e, x.map (paired ns) = .error e) ↔ ∃ e, x = .error e := by
    intro x
    cases x <;> simp [Except.map]
  rw [credentials_eq_paired, hmap, exists_mapM_eq_error_iff]
  simp only [exists_secret?_eq_error_iff]

/-- A name without a secret takes its place in what was read with it, so that the others
keep theirs. -/
theorem paired_gives (h : c.FindsByName) (hns : ∀ n ∈ ns, n ≠ "") {read : List (Option Secret)}
    (hread : List.Forall₂ (fun n found => c.secret? space n = .ok found) ns read) :
    List.Forall₂ (c.Gives space) (ns.filter (c.holdsSecret space)) (paired ns read) := by
  induction hread with
  | nil => exact .nil
  | @cons n found ns read hn hread ih =>
    obtain ⟨hne, hns⟩ := List.forall_mem_cons.1 hns
    cases hsecret : c.secret space n with
    | failed => simp [secret?, hsecret] at hn
    | missing =>
      obtain rfl : none = found := by simpa [secret?, hsecret] using hn
      have hheld : c.holdsSecret space n = false := by rw [holdsSecret, hsecret]
      rw [List.filter_cons_of_neg (by simp [hheld])]
      exact ih hns
    | found s =>
      obtain rfl : some s = found := by simpa [secret?, hsecret] using hn
      have hheld : c.holdsSecret space n = true := by rw [holdsSecret, hsecret]
      obtain ⟨cred, hcred, hname⟩ := Secret.exists_credential (h space n s hsecret) hne
      have hpaired : paired (n :: ns) (some s :: read) = cred :: paired ns read := by
        simp [paired, hcred]
      rw [List.filter_cons_of_pos hheld, hpaired]
      exact .cons ⟨hname, s, hsecret, hcred⟩ (ih hns)

theorem credentials_give (h : c.FindsByName) (hns : ∀ n ∈ ns, n ≠ "")
    (hcreds : c.credentials space ns = .ok creds) :
    List.Forall₂ (c.Gives space) (ns.filter (c.holdsSecret space)) creds := by
  rw [credentials_eq_paired] at hcreds
  cases hread : ns.mapM (c.secret? space) with
  | error e => simp [hread, Except.map] at hcreds
  | ok read =>
    obtain rfl : paired ns read = creds := by simpa [hread, Except.map] using hcreds
    exact paired_gives h hns (mapM_eq_ok_iff.1 hread)

theorem names_of_gives (h : List.Forall₂ (c.Gives space) ns creds) :
    creds.map Credential.name = ns := by
  have hnames : List.Forall₂ (· = ·) ns (creds.map Credential.name) := by
    rw [List.forall₂_map_right_iff]
    exact h.imp fun n cred hcred => hcred.1.symm
  exact (List.forall₂_eq_eq_eq ▸ hnames).symm

/-- What an account comes to: its pull secrets by name, and for each of its secrets that is
in the cluster the credential of this secret. Names that are empty or repeated do not count. -/
structure Resolves (c : Cluster) (space : String) (account : ServiceAccount)
    (found : AccountCredentials) : Prop where
  pulls : found.imagePullSecrets =
    ((account.imagePullSecrets.filterMap NameReference.name).filter (· ≠ "")).eraseDups
  secrets : List.Forall₂ (c.Gives space)
    (((account.secrets.filterMap ObjectReference.name).filter (· ≠ "")).eraseDups.filter
      (c.holdsSecret space))
    found.secrets
  distinct : (found.secrets.map Credential.name).Nodup

/-- Reading the account, or a secret that it names, fails. -/
inductive Unreadable (c : Cluster) (space name : String) : Prop
  | account (h : ∀ account, c.account space name ≠ .found account)
  | secret {account : ServiceAccount} {n : String}
      (haccount : c.account space name = .found account)
      (hmem : n ∈ account.secrets.filterMap ObjectReference.name) (hne : n ≠ "")
      (h : c.secret space n = .failed)

theorem exists_resolve_eq_error_iff :
    (∃ e, c.resolve space name = .error e) ↔ c.Unreadable space name := by
  constructor
  · rintro ⟨e, he⟩
    unfold resolve at he
    split at he
    next account haccount =>
      split at he
      next => cases he
      next e hcreds =>
        obtain ⟨n, hn, hfailed⟩ := exists_credentials_eq_error_iff.1 ⟨e, hcreds⟩
        obtain ⟨hne, hmem⟩ := mem_names.1 hn
        exact .secret haccount hmem hne hfailed
    next hnone => exact .account hnone
  · rintro (h | ⟨haccount, hmem, hne, h⟩)
    · unfold resolve
      split
      next account haccount => exact absurd haccount (h account)
      next => exact ⟨_, rfl⟩
    · obtain ⟨e, he⟩ := exists_credentials_eq_error_iff.2 ⟨_, mem_names.2 ⟨hne, hmem⟩, h⟩
      refine ⟨e, ?_⟩
      simp only [resolve, haccount, ServiceAccount.secretNames, he]

theorem resolves_of_eq_ok (h : c.FindsByName) {found : AccountCredentials}
    (hfound : c.resolve space name = .ok found) :
    ∃ account, c.account space name = .found account ∧ c.Resolves space account found := by
  unfold resolve at hfound
  split at hfound
  next account haccount =>
    split at hfound
    next creds hcreds =>
      obtain rfl := Except.ok.inj hfound
      have hgives := credentials_give h (fun n hn => (mem_names.1 hn).1) hcreds
      refine ⟨account, haccount, names_eq_eraseDups _, ?_, ?_⟩
      · rwa [names_eq_eraseDups] at hgives
      · rw [names_of_gives hgives]
        exact (names_areFirst _).nodup.filter _
    next => cases hfound
  next => cases hfound

/-- An account cannot be resolved exactly if it, or a secret that it names, cannot be read.
Otherwise it gives the names of its pull secrets and the credentials of its secrets, in the
order in which they are first named. Secrets that are gone are left out. -/
theorem resolve_paired (h : c.FindsByName) (space name : String) :
    ((∃ e, c.resolve space name = .error e) ↔ c.Unreadable space name) ∧
      ∀ found, c.resolve space name = .ok found →
        ∃ account, c.account space name = .found account ∧ c.Resolves space account found :=
  ⟨exists_resolve_eq_error_iff, fun _ => resolves_of_eq_ok h⟩

/-- A cluster with two secrets and one account, which names one of them twice, one that is
gone, and nothing. -/
def scattered : Cluster where
  account _ name :=
    let secret : Option String → ObjectReference := fun name =>
      ⟨none, none, none, name, none, none, none⟩
    if name = "builder" then
      .found ⟨.none, none, [secret "git", secret "gone", secret "", secret "git", secret "signer"],
        [⟨"pull"⟩, ⟨none⟩, ⟨"pull"⟩]⟩
    else .missing
  secret _ name :=
    if name = "git" ∨ name = "signer" then
      .found ⟨{ ObjectMetadata.none with name := name }, "kubernetes.io/basic-auth", none, none⟩
    else .missing

theorem scattered_paired :
    scattered.FindsByName ∧
      ∃ found, scattered.resolve "dev" "builder" = .ok found ∧
        found.secrets.map Credential.name = ["git", "signer"] ∧ found.imagePullSecrets = ["pull"] ∧
        ¬ scattered.Unreadable "dev" "builder" ∧ scattered.Unreadable "dev" "other" := by
  have hfinds : scattered.FindsByName := by
    intro space name s hs
    simp only [scattered] at hs
    split at hs
    · cases hs
      rfl
    · cases hs
  obtain ⟨found, hfound⟩ : ∃ found, scattered.resolve "dev" "builder" = .ok found :=
    exists_eq_ok_iff.2 (by decide +kernel)
  obtain ⟨hreadable, hresolves⟩ := resolve_paired hfinds "dev" "builder"
  obtain ⟨account, haccount, hresolved⟩ := hresolves found hfound
  obtain rfl := ReadResult.found.inj haccount
  refine ⟨hfinds, found, hfound, ?_, ?_, ?_, ?_⟩
  · rw [names_of_gives hresolved.secrets]
    decide +kernel
  · rw [hresolved.pulls]
    decide +kernel
  · rw [← hreadable, hfound]
    rintro ⟨e, he⟩
    cases he
  · exact (resolve_paired hfinds "dev" "other").1.1 ⟨_, rfl⟩

end Cluster

end ImageBuild
