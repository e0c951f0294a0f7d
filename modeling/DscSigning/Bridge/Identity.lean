/-
The bridge keeps its identity.

A start writes the certificate or its key only when the two files cannot be
loaded together, and serves what it has read back from them.  So of starts that
run one after another, whatever fails in them and wherever they are cut off, all
that come to serve present the same certificate.
-/

import DscSigning.Bridge.Startup
import DscSigning.Library.Alone
import Mathlib.Data.List.TakeWhile

namespace DscSigning.Startup

open Interaction Program Engine
open DscSigning.Bridge (GoError)

variable (lib : Libraries)

def Operation.touches : Operation → Bool
  | .openFile _ => true
  | .write .. => true
  | _ => false

/-- What was asked since the call last changed a file, newest first. -/
def untouched (trace : StartTrace) : StartTrace :=
  trace.takeWhile fun event => !event.query.touches

/-- The two files cannot be loaded together, as far as the call has seen. -/
def Unloadable (trace : StartTrace) : Prop :=
  (∃ file err stamp, file ≠ .config ∧ ((⟨.stat file, .error err, stamp⟩ : StartEvent) ∈ trace ∨
    (⟨.readFile file, .error err, stamp⟩ : StartEvent) ∈ trace)) ∨
  ∃ certPEM keyPEM err first second, lib.x509KeyPair certPEM keyPEM = .error err ∧
    (⟨.readFile .tlsCert, .ok certPEM, first⟩ : StartEvent) ∈ trace ∧
    (⟨.readFile .tlsKey, .ok keyPEM, second⟩ : StartEvent) ∈ trace

/-- A file is changed when the two cannot be loaded, or had been changed already. -/
def Permitted (trace : StartTrace) (operation : Operation) : Prop :=
  operation.touches = true → Unloadable lib trace

/-- The pair has been read from the files as the call left them. -/
def LoadedPair (trace : StartTrace) (pair : KeyPair) : Prop :=
  ∃ certPEM keyPEM first second, lib.x509KeyPair certPEM keyPEM = .ok pair ∧
    (⟨.readFile .tlsCert, .ok certPEM, first⟩ : StartEvent) ∈ untouched trace ∧
    (⟨.readFile .tlsKey, .ok keyPEM, second⟩ : StartEvent) ∈ untouched trace

def Ends (trace : StartTrace) : Except GoError Serving → Prop
  | .ok serving => LoadedPair lib trace serving.certificate ∧
      serving.agentFP = certFingerprint lib serving.certificate.leaf
  | .error _ => True

variable {lib}

theorem Unloadable.mono {trace later : StartTrace} (unloadable : Unloadable lib trace)
    (suffix : trace <:+ later) : Unloadable lib later := by
  rcases unloadable with ⟨file, err, stamp, tls, seen | seen⟩ |
    ⟨certPEM, keyPEM, err, first, second, refused, cert, key⟩
  · exact Or.inl ⟨file, err, stamp, tls, Or.inl (suffix.subset seen)⟩
  · exact Or.inl ⟨file, err, stamp, tls, Or.inr (suffix.subset seen)⟩
  · exact Or.inr ⟨certPEM, keyPEM, err, first, second, refused, suffix.subset cert,
      suffix.subset key⟩

theorem untouched_cons {event : StartEvent} {trace : StartTrace}
    (quiet : event.query.touches = false) : untouched (event :: trace) = event :: untouched trace := by
  rw [untouched, List.takeWhile_cons_of_pos (by rw [quiet]; rfl), untouched]

theorem LoadedPair.cons {trace : StartTrace} {pair : KeyPair} (loaded : LoadedPair lib trace pair)
    {event : StartEvent} (quiet : event.query.touches = false) :
    LoadedPair lib (event :: trace) pair := by
  obtain ⟨certPEM, keyPEM, first, second, loads, cert, key⟩ := loaded
  refine ⟨certPEM, keyPEM, first, second, loads, ?_, ?_⟩
  · rw [untouched_cons quiet]
    exact List.mem_cons_of_mem _ cert
  · rw [untouched_cons quiet]
    exact List.mem_cons_of_mem _ key

/-! ### What a start does -/

/-- One question at the head of a program that takes errors as values. -/
theorem follows_ask {Value : Type} {operation : Operation}
    {next : Except GoError operation.Answer → Starter Value} {trace : StartTrace}
    {ends : StartTrace → Except GoError Value → Prop} (permitted : Permitted lib trace operation)
    (after : ∀ reply stamp, (next reply).Follows (Permitted lib) ends
      (⟨operation, reply, stamp⟩ :: trace)) :
    ((ask operation).bind next).Follows (Permitted lib) ends trace :=
  ⟨permitted, after⟩

theorem permitted_quiet {trace : StartTrace} {operation : Operation}
    (quiet : operation.touches = false) : Permitted lib trace operation := by
  intro touches
  rw [quiet] at touches
  cases touches

variable (lib) in
/-- What loading tells: the pair that was read, or that there is none to load. -/
def Told (later : StartTrace) : Except GoError KeyPair → Prop
  | .ok pair => LoadedPair lib later pair
  | .error _ => Unloadable lib later

variable (lib) in
def ToldExisting (later : StartTrace) : Option KeyPair → Prop
  | some pair => LoadedPair lib later pair
  | none => Unloadable lib later

theorem loadX509KeyPair_follows (trace : StartTrace) :
    (loadX509KeyPair lib).Follows (Permitted lib)
      (fun later result => ∀ loaded, result = .ok loaded → Told lib later loaded) trace := by
  refine follows_ask (permitted_quiet rfl) fun cert first => ?_
  cases cert with
  | error err =>
      intro loaded same
      cases same
      exact Or.inl ⟨.tlsCert, err, first, by decide, Or.inr List.mem_cons_self⟩
  | ok certPEM =>
      refine follows_ask (permitted_quiet rfl) fun key second => ?_
      cases key with
      | error err =>
          intro loaded same
          cases same
          exact Or.inl ⟨.tlsKey, err, second, by decide, Or.inr List.mem_cons_self⟩
      | ok keyPEM =>
          intro loaded same
          cases same
          cases loads : lib.x509KeyPair certPEM keyPEM with
          | error err =>
              exact Or.inr ⟨certPEM, keyPEM, err, first, second, loads,
                List.mem_cons_of_mem _ List.mem_cons_self, List.mem_cons_self⟩
          | ok pair =>
              refine ⟨certPEM, keyPEM, first, second, loads, ?_, ?_⟩
              · rw [untouched_cons rfl, untouched_cons rfl]
                exact List.mem_cons_of_mem _ List.mem_cons_self
              · rw [untouched_cons rfl]
                exact List.mem_cons_self

theorem fileExists_follows {file : File} (tls : file ≠ .config) (trace : StartTrace) :
    (fileExists file).Follows (Permitted lib) (fun later result =>
      result = .ok false → Unloadable lib later) trace := by
  refine follows_ask (permitted_quiet rfl) fun info stamp => ?_
  cases info with
  | ok found =>
      intro absent
      cases absent
  | error err => exact fun _ => Or.inl ⟨file, err, stamp, tls, Or.inl List.mem_cons_self⟩

theorem bothExist_follows (trace : StartTrace) :
    bothExist.Follows (Permitted lib) (fun later result =>
      result = .ok false → Unloadable lib later) trace := by
  refine (fileExists_follows (by decide) trace).bind (fun later cert _ absent => ?_)
    fun _ _ _ _ same => by cases same
  cases cert with
  | true => exact fileExists_follows (by decide) later
  | false => exact fun _ => absent rfl

theorem loadExisting_follows (trace : StartTrace) :
    (loadExisting lib).Follows (Permitted lib)
      (fun later result => ∀ existing, result = .ok existing → ToldExisting lib later existing)
      trace := by
  refine (bothExist_follows trace).bind (fun later both _ absent => ?_)
    fun _ _ _ _ _ same => by cases same
  cases both with
  | false =>
      intro existing same
      cases same
      exact absent rfl
  | true =>
      refine (loadX509KeyPair_follows later).bind (fun after loaded _ tells => ?_)
        fun _ _ _ _ _ same => by cases same
      intro existing same
      cases same
      cases loaded with
      | ok pair => exact tells _ rfl
      | error err => exact tells _ rfl

variable (lib) in
/-- What generating ends in: an error, or the pair as it was read back. -/
def Generated (later : StartTrace) (result : Except GoError (Except GoError KeyPair)) : Prop :=
  ∀ pair, result = .ok (.ok pair) → LoadedPair lib later pair

theorem generated_error {later : StartTrace} {err : GoError} :
    Generated lib later (.ok (.error err)) := by
  intro pair same
  cases same

theorem writePem_follows {file : File} {kind : String} {der : Bytes}
    {next : Starter (Except GoError KeyPair)} {trace : StartTrace}
    (unloadable : Unloadable lib trace)
    (after : ∀ later, Unloadable lib later →
      next.Follows (Permitted lib) (Generated lib) later) :
    (writePem lib file kind der next).Follows (Permitted lib) (Generated lib) trace := by
  refine follows_ask (fun _ => unloadable) fun opened stamp => ?_
  have still (event : StartEvent) : Unloadable lib (event :: trace) :=
    unloadable.mono (List.suffix_cons _ _)
  cases opened with
  | error err => exact generated_error
  | ok done =>
      refine follows_ask (fun _ => still _) fun wrote _ => ?_
      exact after _ ((still _).mono (List.suffix_cons _ _))

theorem loadAgain_follows (trace : StartTrace) :
    (loadX509KeyPair lib).Follows (Permitted lib) (Generated lib) trace := by
  refine (loadX509KeyPair_follows trace).weaken fun later result _ tells pair same => ?_
  exact tells _ same

theorem generate_follows {trace : StartTrace} (unloadable : Unloadable lib trace) :
    (generateSelfSignedCert lib).Follows (Permitted lib) (Generated lib) trace := by
  refine follows_ask (permitted_quiet rfl) fun key first => ?_
  cases key with
  | error err => exact generated_error
  | ok key =>
      refine follows_ask (permitted_quiet rfl) fun serial second => ?_
      cases serial with
      | error err => exact generated_error
      | ok serial =>
          refine follows_ask (permitted_quiet rfl) fun certDER third => ?_
          cases certDER with
          | error err => exact generated_error
          | ok certDER =>
              have still : Unloadable lib (⟨.createCertificate (template serial) key, .ok certDER,
                  third⟩ :: ⟨.randInt, .ok serial, second⟩ :: ⟨.generateKey, .ok key, first⟩ ::
                  trace) :=
                unloadable.mono ((List.suffix_cons _ _).trans ((List.suffix_cons _ _).trans
                  (List.suffix_cons _ _)))
              refine writePem_follows still fun later again => ?_
              cases lib.marshalECPrivateKey key with
              | error err => exact generated_error
              | ok keyDER => exact writePem_follows again fun last _ => loadAgain_follows last

theorem ensureTLSCert_follows (trace : StartTrace) :
    (ensureTLSCert lib).Follows (Permitted lib) (fun later result => ∀ pair fp,
      result = .ok (.ok (pair, fp)) →
        LoadedPair lib later pair ∧ fp = certFingerprint lib pair.leaf) trace := by
  refine (loadExisting_follows trace).bind (fun later existing _ tells => ?_)
    fun _ _ _ _ _ _ same => by cases same
  cases existing with
  | some cert =>
      intro pair fp same
      cases same
      exact ⟨tells _ rfl, rfl⟩
  | none =>
      refine (generate_follows (tells _ rfl)).bind (fun after generated _ loaded => ?_)
        fun _ _ _ _ _ _ same => by cases same
      cases generated with
      | error err =>
          intro pair fp same
          cases same
      | ok cert =>
          intro pair fp same
          cases same
          exact ⟨loaded _ rfl, rfl⟩

theorem serve_follows {config : Config} {pair : KeyPair} {fp : String} {trace : StartTrace}
    (loaded : LoadedPair lib trace pair) (fingerprint : fp = certFingerprint lib pair.leaf) :
    (serve config (pair, fp)).Follows (Permitted lib) (Ends lib) trace := by
  refine follows_ask (permitted_quiet rfl) fun ks _ => ?_
  cases ks with
  | error err => trivial
  | ok done =>
      refine follows_ask (permitted_quiet rfl) fun listening _ => ?_
      cases listening with
      | error err => trivial
      | ok listens => exact ⟨(loaded.cons rfl).cons rfl, fingerprint⟩

theorem loadConfig_quiet : (loadConfig lib).Uses fun operation : Operation => operation.touches = false := by
  refine Uses.bind ⟨rfl, fun _ => trivial⟩ fun dir => ?_
  cases dir with
  | error err => trivial
  | ok done => exact Uses.bind ⟨rfl, fun _ => trivial⟩ fun data => trivial

theorem start_follows : (start lib).Follows (Permitted lib) (Ends lib) [] := by
  have configured : (loadConfig lib).Follows (Permitted lib) (fun _ _ => True)
      ([] : StartTrace) :=
    (Uses.follows loadConfig_quiet [] fun _ _ => permitted_quiet).weaken fun _ _ _ _ => trivial
  refine configured.bind (fun later config _ _ => ?_) fun _ _ _ _ => trivial
  cases config with
  | error err => trivial
  | ok config =>
      refine (ensureTLSCert_follows later).bind (fun after cert _ tells => ?_) fun _ _ _ _ => trivial
      cases cert with
      | error err => trivial
      | ok cert => exact serve_follows (tells _ _ rfl).1 (tells _ _ rfl).2

/-! ### Starts one after another -/

abbrev StartWorld (lib : Libraries) : Type := (machine lib).World Unit Serving

abbrev StartCall (lib : Libraries) : Type := (machine lib).Call Unit Serving

abbrev StartLabel (lib : Libraries) : Type := (machine lib).Label Unit

/-- A question about what one of the two files holds. -/
def Operation.reads (operation : Operation) : Prop :=
  ∃ file, file ≠ .config ∧ (operation = .stat file ∨ operation = .readFile file)

/-- A start begins when no other runs, the two files are left alone, and what
is there can be found and read. -/
structure Undisturbed (world : StartWorld lib) (label : StartLabel lib) : Prop where
  alone : ∀ origin, label = .start origin → world.Idle
  edits : ∀ file bytes, label = .move (.edit file bytes) → file = .config
  readable : ∀ index call event oracle, asking world label = some (index, call, event) →
    event.query.reads → label = .ask index oracle → oracle.fault = none

/-- What the files hold agrees with what was seen of them. -/
def Consistent (files : Table File Bytes) : StartEvent → Prop
  | ⟨.stat file, .error _, _⟩ => file ≠ .config → files.lookup file = none
  | ⟨.readFile file, .error _, _⟩ => file ≠ .config → files.lookup file = none
  | ⟨.readFile file, .ok bytes, _⟩ => file ≠ .config → files.lookup file = some bytes
  | _ => True

variable (lib) in
/-- The files hold a pair that loads. -/
def Loads (files : Table File Bytes) (pair : KeyPair) : Prop :=
  ∃ certPEM keyPEM, files.lookup .tlsCert = some certPEM ∧ files.lookup .tlsKey = some keyPEM ∧
    lib.x509KeyPair certPEM keyPEM = .ok pair

theorem Loads.unique {files : Table File Bytes} {pair other : KeyPair} (loads : Loads lib files pair)
    (again : Loads lib files other) : pair = other := by
  obtain ⟨certPEM, keyPEM, cert, key, read⟩ := loads
  obtain ⟨_, _, otherCert, otherKey, otherRead⟩ := again
  rw [cert] at otherCert
  rw [key] at otherKey
  cases otherCert
  cases otherKey
  rw [read] at otherRead
  exact Except.ok.inj otherRead

/-- A call that sees the files as they are does not find a pair unloadable that loads. -/
theorem Unloadable.absurd {files : Table File Bytes} {trace : StartTrace} {pair : KeyPair}
    (unloadable : Unloadable lib trace) (agrees : ∀ event ∈ trace, Consistent files event)
    (loads : Loads lib files pair) : False := by
  obtain ⟨certPEM, keyPEM, cert, key, read⟩ := loads
  have there (file : File) (tls : file ≠ .config) : files.lookup file ≠ none := by
    cases file with
    | config => exact fun _ => tls rfl
    | tlsCert => rw [cert]; exact Option.some_ne_none _
    | tlsKey => rw [key]; exact Option.some_ne_none _
  rcases unloadable with ⟨file, err, stamp, tls, seen | seen⟩ |
    ⟨certSeen, keySeen, err, first, second, refused, certRead, keyRead⟩
  · exact there file tls (agrees _ seen tls)
  · exact there file tls (agrees _ seen tls)
  · have sameCert : files.lookup .tlsCert = some certSeen := agrees _ certRead (by decide)
    have sameKey : files.lookup .tlsKey = some keySeen := agrees _ keyRead (by decide)
    rw [cert] at sameCert
    rw [key] at sameKey
    cases sameCert
    cases sameKey
    rw [read] at refused
    cases refused

theorem LoadedPair.loads {files : Table File Bytes} {trace : StartTrace} {pair : KeyPair}
    (loaded : LoadedPair lib trace pair)
    (agrees : ∀ event ∈ untouched trace, Consistent files event) : Loads lib files pair := by
  obtain ⟨certPEM, keyPEM, first, second, read, cert, key⟩ := loaded
  exact ⟨certPEM, keyPEM, agrees _ cert (by decide), agrees _ key (by decide), read⟩

def Served (call : StartCall lib) (serving : Serving) : Prop :=
  call.phase = .ended (.ok serving)

/-- Only the last call runs, it has seen the files as they are since it last
changed them, what has been served is what they hold, and once something has
been served they are not changed. -/
structure Keeping (world : StartWorld lib) : Prop where
  halted : ∀ (index : Nat) (call : StartCall lib) program, world.calls[index]? = some call →
    call.phase = .running program → index + 1 = world.calls.length
  agrees : ∀ (index : Nat) (call : StartCall lib), world.calls[index]? = some call →
    index + 1 = world.calls.length →
      ∀ event ∈ untouched call.trace, Consistent world.shared.files event
  kept : ∀ (index : Nat) (call : StartCall lib) serving, world.calls[index]? = some call →
    Served call serving → Loads lib world.shared.files serving.certificate
  quiet : ∀ (index : Nat) (call : StartCall lib) program (other : Nat) (served : StartCall lib)
    serving, world.calls[index]? = some call → call.phase = .running program →
      world.calls[other]? = some served → Served served serving →
        ∀ event ∈ call.trace, event.query.touches = false

theorem untouched_all {trace : StartTrace} (quiet : ∀ event ∈ trace, event.query.touches = false) :
    untouched trace = trace := by
  rw [untouched, List.takeWhile_eq_self_iff]
  intro event member
  rw [quiet event member]
  rfl

/-- A question that changes no file leaves them as they are. -/
theorem reply_quiet {oracle : Oracle} {shared : Shared} {operation : Operation}
    (quiet : operation.touches = false) :
    (reply lib oracle shared operation).2.files = shared.files := by
  unfold reply
  cases oracle.fault with
  | some err =>
      cases operation with
      | write file bytes => cases quiet
      | _ => rfl
  | none =>
      cases operation with
      | openFile file => cases quiet
      | write file bytes => cases quiet
      | stat file =>
          simp only [answer]
          split <;> rfl
      | readFile file =>
          simp only [answer]
          split <;> rfl
      | _ => rfl

/-- What can be read is told as the files are. -/
theorem reply_consistent {oracle : Oracle} {shared : Shared} {operation : Operation}
    (readable : operation.reads → oracle.fault = none) (stamp : Int) :
    Consistent shared.files ⟨operation, (reply lib oracle shared operation).1, stamp⟩ := by
  cases operation with
  | stat file =>
      by_cases tls : file = .config
      · subst tls
        generalize (reply lib oracle shared (.stat .config)).1 = told
        cases told with
        | ok done => trivial
        | error err => exact fun tls => absurd rfl tls
      · have works := readable ⟨file, tls, Or.inl rfl⟩
        cases found : shared.files.lookup file with
        | none => simp only [reply, works, answer, found, Consistent, implies_true]
        | some bytes => simp only [reply, works, answer, found, Consistent]
  | readFile file =>
      by_cases tls : file = .config
      · subst tls
        generalize (reply lib oracle shared (.readFile .config)).1 = told
        cases told with
        | ok bytes => exact fun tls => absurd rfl tls
        | error err => exact fun tls => absurd rfl tls
      · have works := readable ⟨file, tls, Or.inr rfl⟩
        cases found : shared.files.lookup file with
        | none => simp only [reply, works, answer, found, Consistent, implies_true]
        | some bytes => simp only [reply, works, answer, found, Consistent, implies_true]
  | _ => trivial

theorem consistent_edit {files : Table File Bytes} {event : StartEvent} (bytes : Option Bytes)
    (consistent : Consistent files event) {shared : Shared} (same : shared.files = files) :
    Consistent (Move.apply shared (.edit .config bytes)).files event := by
  subst same
  have kept (file : File) (tls : file ≠ .config) :
      (Move.apply shared (.edit .config bytes)).files.lookup file = shared.files.lookup file := by
    cases bytes with
    | none => exact AList.lookup_erase_ne tls
    | some bytes => exact AList.lookup_insert_ne tls
  unfold Consistent at consistent ⊢
  split at consistent
  · exact fun tls => (kept _ tls).trans (consistent tls)
  · exact fun tls => (kept _ tls).trans (consistent tls)
  · exact fun tls => (kept _ tls).trans (consistent tls)
  · trivial

section Steps

variable {world next : StartWorld lib} {label : StartLabel lib}

/-- Whoever may still change a file runs while nothing has been served. -/
theorem touch_unserved (keeping : Keeping world)
    (disciplined : world.Disciplined (fun _ => Permitted lib) (fun _ => Ends lib)) {index : Nat}
    {call : StartCall lib} {event : StartEvent}
    (found : asking world label = some (index, call, event))
    (touches : event.query.touches = true) (other : Nat) (served : StartCall lib)
    (serving : Serving) (there : world.calls[other]? = some served) :
    ¬ Served served serving := by
  intro serves
  obtain ⟨located, _, ⟨after, running⟩, _⟩ := asking_located found
  have untouched_ := untouched_all
    (keeping.quiet index call _ other served serving located running there serves)
  have seen := keeping.agrees index call located (keeping.halted index call _ located running)
  rw [untouched_] at seen
  exact (disciplined_asking disciplined found touches).absurd seen
    (keeping.kept other served serving there serves)

theorem set_cases {calls : List (StartCall lib)} {target index : Nat} {new later : StartCall lib}
    (located : (calls.set target new)[index]? = some later) :
    (index = target ∧ later = new) ∨ (index ≠ target ∧ calls[index]? = some later) := by
  by_cases same : target = index
  · subst same
    have bound := (List.getElem?_eq_some_iff.mp located).1
    rw [List.length_set] at bound
    rw [List.getElem?_set_self bound] at located
    exact Or.inl ⟨rfl, (Option.some.inj located).symm⟩
  · rw [List.getElem?_set_ne same] at located
    exact Or.inr ⟨fun other => same other.symm, located⟩

/-- The running call asks. -/
theorem keeping_ask (keeping : Keeping world) {target : Nat} {call new : StartCall lib} {program}
    (there : world.calls[target]? = some call) (running : call.phase = .running program)
    {event : StartEvent} (trace : new.trace = event :: call.trace) {after}
    (runs : new.phase = .running after)
    (unserved : event.query.touches = true → ∀ (other : Nat) served serving,
      world.calls[other]? = some served → ¬ Served served serving)
    (consistent : Consistent world.shared.files event)
    (calls : next.calls = world.calls.set target new)
    (files : event.query.touches = false → next.shared.files = world.shared.files) :
    Keeping next := by
  have last := keeping.halted target call program there running
  have length : next.calls.length = world.calls.length := by rw [calls, List.length_set]
  have served_old (index : Nat) (later : StartCall lib) (serving : Serving)
      (located : next.calls[index]? = some later) (serves : Served later serving) :
      world.calls[index]? = some later ∧ event.query.touches = false := by
    rw [calls] at located
    rcases set_cases located with ⟨_, rfl⟩ | ⟨_, old⟩
    · rw [Served, runs] at serves
      cases serves
    · refine ⟨old, ?_⟩
      cases touches : event.query.touches with
      | false => rfl
      | true => exact absurd serves (unserved touches index later serving old)
  constructor
  · intro index later next located begun
    rw [calls] at located
    rw [length]
    rcases set_cases located with ⟨rfl, _⟩ | ⟨_, old⟩
    · exact last
    · exact keeping.halted index later next old begun
  · intro index later located position
    rw [calls] at located
    rcases set_cases located with ⟨_, rfl⟩ | ⟨other, _⟩
    · intro seen member
      rw [trace] at member
      cases touches : event.query.touches with
      | true =>
          rw [untouched, List.takeWhile_cons_of_neg (by rw [touches]; decide)] at member
          cases member
      | false =>
          rw [files touches]
          rw [untouched_cons touches] at member
          rcases List.mem_cons.mp member with rfl | older
          · exact consistent
          · exact keeping.agrees target call there last seen older
    · omega
  · intro index later serving located serves
    obtain ⟨old, quiet⟩ := served_old index later serving located serves
    rw [files quiet]
    exact keeping.kept index later serving old serves
  · intro index later program other served serving located begun thereServed serves seen member
    obtain ⟨old, quiet⟩ := served_old other served serving thereServed serves
    rw [calls] at located
    rcases set_cases located with ⟨_, rfl⟩ | ⟨distinct, oldRunning⟩
    · rw [trace] at member
      rcases List.mem_cons.mp member with rfl | older
      · exact quiet
      · exact keeping.quiet target call _ other served serving there running old serves seen older
    · have position := keeping.halted index later program oldRunning begun
      omega

/-- The running call halts. -/
theorem keeping_halt (keeping : Keeping world) {target : Nat} {call new : StartCall lib} {program}
    (there : world.calls[target]? = some call) (running : call.phase = .running program)
    (calls : next.calls = world.calls.set target new) (shared : next.shared = world.shared)
    (trace : new.trace = call.trace) (halts : ∀ after, new.phase ≠ .running after)
    (loads : ∀ serving, Served new serving → Loads lib world.shared.files serving.certificate) :
    Keeping next := by
  have last := keeping.halted target call program there running
  have nobody (index : Nat) (later : StartCall lib) (after : Starter Serving)
      (located : next.calls[index]? = some later) : later.phase ≠ .running after := by
    intro begun
    rw [calls] at located
    rcases set_cases located with ⟨_, rfl⟩ | ⟨distinct, old⟩
    · exact halts after begun
    · have position := keeping.halted index later after old begun
      omega
  constructor
  · intro index later after located begun
    exact absurd begun (nobody index later after located)
  · intro index later located position
    rw [calls] at located position
    rw [List.length_set] at position
    rw [shared]
    rcases set_cases located with ⟨_, rfl⟩ | ⟨_, old⟩
    · rw [trace]
      exact keeping.agrees target call there last
    · exact keeping.agrees index later old position
  · intro index later serving located serves
    rw [calls] at located
    rw [shared]
    rcases set_cases located with ⟨_, rfl⟩ | ⟨_, old⟩
    · exact loads serving serves
    · exact keeping.kept index later serving old serves
  · intro index later after other served serving located begun
    exact absurd begun (nobody index later after located)

theorem keeping_start (keeping : Keeping world) (idle : world.Idle) {new : StartCall lib}
    (fresh : new.trace = []) {program} (runs : new.phase = .running program)
    (calls : next.calls = world.calls ++ [new]) (shared : next.shared = world.shared) :
    Keeping next := by
  have length : next.calls.length = world.calls.length + 1 := by
    rw [calls, List.length_append, List.length_singleton]
  have append_cases (index : Nat) (later : StartCall lib) (located : next.calls[index]? = some later) :
      world.calls[index]? = some later ∨ (index = world.calls.length ∧ later = new) := by
    rw [calls] at located
    rcases Nat.lt_or_ge index world.calls.length with before | beyond
    · rw [List.getElem?_append_left before] at located
      exact Or.inl located
    · rw [List.getElem?_append_right beyond] at located
      obtain ⟨position, same⟩ := List.getElem?_eq_some_iff.mp located
      rw [List.length_singleton] at position
      rw [List.getElem_singleton] at same
      exact Or.inr ⟨by omega, same.symm⟩
  constructor
  · intro index later after located begun
    rcases append_cases index later located with old | ⟨position, _⟩
    · exact absurd begun (idle index later old after)
    · omega
  · intro index later located position seen member
    rcases append_cases index later located with old | ⟨_, rfl⟩
    · have bound := (List.getElem?_eq_some_iff.mp old).1
      omega
    · rw [fresh] at member
      cases member
  · intro index later serving located serves
    rw [shared]
    rcases append_cases index later located with old | ⟨_, rfl⟩
    · exact keeping.kept index later serving old serves
    · rw [Served, runs] at serves
      cases serves
  · intro index later after other served serving located begun _ _ seen member
    rcases append_cases index later located with old | ⟨_, rfl⟩
    · exact absurd begun (idle index later old after)
    · rw [fresh] at member
      cases member

theorem keeping_move (keeping : Keeping world) (calls : next.calls = world.calls)
    (seen : ∀ event, Consistent world.shared.files event → Consistent next.shared.files event)
    (held : ∀ file, file ≠ .config →
      next.shared.files.lookup file = world.shared.files.lookup file) : Keeping next := by
  constructor
  · rw [calls]
    exact keeping.halted
  · rw [calls]
    intro index call located position event member
    exact seen event (keeping.agrees index call located position event member)
  · rw [calls]
    intro index call serving located serves
    obtain ⟨certPEM, keyPEM, cert, key, read⟩ := keeping.kept index call serving located serves
    exact ⟨certPEM, keyPEM, (held _ (by decide)).trans cert, (held _ (by decide)).trans key, read⟩
  · rw [calls]
    exact keeping.quiet

theorem keeping_step (keeping : Keeping world)
    (disciplined : world.Disciplined (fun _ => Permitted lib) (fun _ => Ends lib))
    (undisturbed : Undisturbed world label) (stepped : step (body lib) world label = some next) :
    Keeping next := by
  cases step_cases (body lib) stepped with
  | start origin => exact keeping_start keeping (undisturbed.alone origin rfl) rfl rfl rfl rfl
  | ask target oracle call query after reply shared there running replied free =>
      have found := asking_ask there running replied
      have replies : Startup.reply lib oracle world.shared query = (reply, shared) :=
        Option.some.inj replied
      have works : query.reads → oracle.fault = none := fun reads =>
        undisturbed.readable target call _ oracle found reads rfl
      refine keeping_ask keeping there running rfl rfl
        (fun touches => touch_unserved keeping disciplined found touches) ?_ rfl fun quiet => ?_
      · have seen : Consistent world.shared.files
            ⟨query, (Startup.reply lib oracle world.shared query).1, world.shared.now⟩ :=
          reply_consistent works world.shared.now
        rw [replies] at seen
        exact seen
      · have files : (Startup.reply lib oracle world.shared query).2.files = world.shared.files :=
          reply_quiet quiet
        rw [replies] at files
        exact files
  | done target call value there finished =>
      refine keeping_halt keeping there finished rfl rfl rfl (fun _ same => by cases same) ?_
      intro serving serves
      cases serves
      have ends := (disciplined target call there).2
      rw [finished] at ends
      exact ends.1.loads (keeping.agrees target call there
        (keeping.halted target call _ there finished))
  | fail target call error there failed =>
      refine keeping_halt keeping there failed rfl rfl rfl (fun _ same => by cases same) ?_
      intro serving serves
      cases serves
  | abandon target call program there running =>
      refine keeping_halt keeping there running rfl rfl rfl (fun _ same => by cases same) ?_
      intro serving serves
      cases serves
  | move move data shared moved =>
      obtain rfl : move.apply world.shared = shared := congrArg Prod.snd (Option.some.inj moved)
      cases move with
      | elapse time => exact keeping_move keeping rfl (fun _ seen => seen) fun _ _ => rfl
      | edit file bytes =>
          obtain rfl := undisturbed.edits file bytes rfl
          refine keeping_move keeping rfl
            (fun event seen => consistent_edit bytes seen rfl) fun file tls => ?_
          cases bytes with
          | none => exact AList.lookup_erase_ne tls
          | some bytes => exact AList.lookup_insert_ne tls

end Steps

/-- The bridge before its first start, whatever files there are. -/
def installedBridge (lib : Libraries) (now : Int) (files : Table File Bytes) : StartWorld lib :=
  ⟨(), ⟨now, files⟩, [], []⟩

theorem run_keeping {now : Int} {files : Table File Bytes} {labels : List (StartLabel lib)}
    {last : StartWorld lib}
    (undisturbed : Along (body lib) Undisturbed (installedBridge lib now files) labels)
    (ran : run (body lib) (installedBridge lib now files) labels = some last) :
    last.Disciplined (fun _ => Permitted lib) (fun _ => Ends lib) ∧ Keeping last := by
  have preserved : ∀ world label next,
      (world.Disciplined (fun _ => Permitted lib) (fun _ => Ends lib) ∧ Keeping world) →
      Undisturbed world label → step (body lib) world label = some next →
      next.Disciplined (fun _ => Permitted lib) (fun _ => Ends lib) ∧ Keeping next :=
    fun world label next kept quiet stepped =>
      ⟨disciplined_step (body lib) (fun _ => start_follows) kept.1 stepped,
        keeping_step kept.2 kept.1 quiet stepped⟩
  refine run_invariant (body lib) preserved ?_ undisturbed ran
  constructor
  · intro index call located
    cases located
  · constructor
    · intro index call program located
      cases located
    · intro index call located
      cases located
    · intro index call serving located
      cases located
    · intro index call program other served serving located
      cases located

/-- Of starts one after another, on any files, with failures and cuts anywhere
but in reading what is there: all that come to serve present the same
certificate with its own fingerprint, and it is the one that the files hold. -/
theorem identity_kept (lib : Libraries) (now : Int) (files : Table File Bytes)
    (labels : List (StartLabel lib)) {last : StartWorld lib}
    (undisturbed : Along (body lib) Undisturbed (installedBridge lib now files) labels)
    (ran : run (body lib) (installedBridge lib now files) labels = some last)
    {first second : Nat} {one other : StartCall lib} {serving again : Serving}
    (located : last.calls[first]? = some one) (there : last.calls[second]? = some other)
    (served : one.phase = .ended (.ok serving)) (servedAgain : other.phase = .ended (.ok again)) :
    again.certificate = serving.certificate ∧ again.agentFP = serving.agentFP ∧
      serving.agentFP = certFingerprint lib serving.certificate.leaf ∧
      Loads lib last.shared.files serving.certificate := by
  obtain ⟨disciplined, keeping⟩ := run_keeping undisturbed ran
  have ends (index : Nat) (call : StartCall lib) (serving : Serving)
      (located : last.calls[index]? = some call) (served : call.phase = .ended (.ok serving)) :
      serving.agentFP = certFingerprint lib serving.certificate.leaf := by
    have after := (disciplined index call located).2
    rw [served] at after
    exact after.2
  have loads := keeping.kept first one serving located served
  have same := (keeping.kept second other again there servedAgain).unique loads
  refine ⟨same, ?_, ends first one serving located served, loads⟩
  rw [ends second other again there servedAgain, ends first one serving located served, same]

/-! ### A first start that is cut off -/

/-- A certificate is its key behind a zero, and the files are told apart by their first byte. -/
def plainLibraries : Libraries :=
  { sha256 := fun bytes => bytes
    defaultPKCS11Paths := ["/usr/lib/opensc-pkcs11.so"]
    unmarshal := fun _ => .error ⟨false, "unexpected end of JSON input"⟩
    x509KeyPair := fun cert key => match cert, key with
      | 1 :: 0 :: pub, 2 :: priv =>
          if pub = priv then .ok ⟨0 :: pub, [], priv⟩
          else .error ⟨false, "tls: private key does not match public key"⟩
      | _, _ => .error ⟨false, "tls: failed to find any PEM data"⟩
    encodePem := fun kind der => (if kind = "CERTIFICATE" then 1 else 2) :: der
    generated := fun key => key.length == 1
    marshalECPrivateKey := .ok
    createCertificate := fun _ _ key => .ok (0 :: key) }

def drawing (key : Bytes) : Oracle := ⟨none, 0, key, 0⟩

def asks (index count : Nat) (key : Bytes) : List (StartLabel plainLibraries) :=
  List.replicate count (.ask index (drawing key))

/-- The first start dies with the certificate written and no key, the second
makes a new pair, and the third finds it. -/
def threeStarts : List (StartLabel plainLibraries) :=
  .start () :: asks 0 8 [7] ++ .abandon 0 :: .start () :: asks 1 15 [8] ++ .finish 1 ::
    .start () :: asks 2 8 [9] ++ [.finish 2]

def undisturbedCheck (world : StartWorld plainLibraries) : StartLabel plainLibraries → Bool
  | .start _ => world.idleCheck
  | .move (.edit file _) => file == .config
  | .ask _ oracle => oracle.fault.isNone
  | _ => true

theorem undisturbed_of_check (world : StartWorld plainLibraries) (label : StartLabel plainLibraries)
    (checked : undisturbedCheck world label = true) : Undisturbed world label := by
  constructor
  · intro origin same
    subst same
    exact World.idle_of_check checked
  · intro file bytes same
    subst same
    exact beq_iff_eq.mp checked
  · intro index call event oracle _ _ same
    subst same
    exact Option.isNone_iff_eq_none.mp checked

/-- The certificate that a start has come to serve. -/
def presents (call : StartCall plainLibraries) : Option KeyPair :=
  match call.phase with
  | .ended (.ok serving) => some serving.certificate
  | _ => none

theorem presents_some {call : StartCall plainLibraries} {pair : KeyPair}
    (some_ : presents call = some pair) :
    ∃ serving, call.phase = .ended (.ok serving) ∧ serving.certificate = pair := by
  unfold presents at some_
  split at some_
  · rename_i serving phase
    exact ⟨serving, phase, Option.some.inj some_⟩
  · cases some_

theorem identity_kept_sample :
    ∃ last one other serving again,
      run (body plainLibraries) (installedBridge plainLibraries 0 ∅) threeStarts = some last ∧
      last.calls[1]? = some one ∧ last.calls[2]? = some other ∧
      one.phase = .ended (.ok serving) ∧ other.phase = .ended (.ok again) ∧
      again.certificate = serving.certificate ∧ again.agentFP = serving.agentFP := by
  have ends : (run (body plainLibraries) (installedBridge plainLibraries 0 ∅) threeStarts).map
      (fun last => (last.calls[1]?.bind presents, last.calls[2]?.bind presents)) =
        some (some ⟨[0, 8], [], [8]⟩, some ⟨[0, 8], [], [8]⟩) := by
    decide +kernel
  have checked : alongCheck (body plainLibraries) undisturbedCheck
      (installedBridge plainLibraries 0 ∅) threeStarts = true := by
    decide +kernel
  obtain ⟨last, ran, both⟩ := Option.map_eq_some_iff.mp ends
  obtain ⟨first, second⟩ := Prod.mk.inj both
  obtain ⟨one, located, presentsOne⟩ := Option.bind_eq_some_iff.mp first
  obtain ⟨other, there, presentsOther⟩ := Option.bind_eq_some_iff.mp second
  obtain ⟨serving, served, _⟩ := presents_some presentsOne
  obtain ⟨again, servedAgain, _⟩ := presents_some presentsOther
  have kept := identity_kept plainLibraries 0 ∅ threeStarts
    (along_of_check (body plainLibraries) undisturbed_of_check
      (along_check (body plainLibraries) checked)) ran located there served servedAgain
  exact ⟨last, one, other, serving, again, ran, located, there, served, servedAgain, kept.1,
    kept.2.1⟩

end DscSigning.Startup
