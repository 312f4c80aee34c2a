import OpenAmpReference.RpcServers.ProxyMain

namespace OpenAmpReference
namespace ProxyMain

/-!
# Runs of `main()` that return

A step that is not harmless leaves a mark that the way to the end does not remove: a
buffer that nobody frees, a resource that is released before its turn, a handler that
follows a null pointer, or the normal exit itself.  So a run that returns is disciplined
exactly if all its steps are harmless.
-/

open RpcSignals (Signal Action)

/-- How far `main()` is; the service loop is one place. -/
def Stage.rank : Stage -> Nat
  | Stage.installTerm => 0
  | Stage.installInt => 1
  | Stage.installHup => 2
  | Stage.lookupChannel => 3
  | Stage.bindRpmsgChrdev => 4
  | Stage.ctrlChrdevFd => 5
  | Stage.chrdevFd => 6
  | Stage.createEpt => 7
  | Stage.eptDevName => 8
  | Stage.openEpt => 9
  | Stage.mallocProxy => 10
  | Stage.setFd => 11
  | Stage.setActive => 12
  | Stage.mallocRpc => 13
  | Stage.mallocResponse => 14
  | Stage.checkMalloc => 15
  | Stage.initMsg => 16
  | Stage.read | Stage.handle _ | Stage.respond | Stage.test => 17
  | Stage.closeProxyFd => 18
  | Stage.freeRpc => 19
  | Stage.freeResponse => 20
  | Stage.closeEpt => 21
  | Stage.closeChar => 22
  | Stage.freeProxy => 23
  | Stage.returning => 24
  | Stage.done => 25

namespace World

variable {world next : World} {resource : Resource}

/-! ## What a step keeps -/

theorem usesFd_extends (fd : Nat) : (world.usesFd fd).ledger.Extends world.ledger := by
  unfold usesFd
  split
  · exact Ledger.use_extends _ _
  · exact Ledger.Extends.refl _

theorem closes_extends (fd : Nat) : (world.closes fd).ledger.Extends world.ledger := by
  unfold closes
  split
  · exact Ledger.release_extends _ _
  · exact Ledger.Extends.refl _

theorem closesIfOpen_extends (fd : Option Nat) :
    (world.closesIfOpen fd).ledger.Extends world.ledger := by
  cases fd with
  | none => exact Ledger.Extends.refl _
  | some fd => exact closes_extends fd

theorem usesProxyFd_extends : world.usesProxyFd.ledger.Extends world.ledger := by
  unfold usesProxyFd
  split
  · exact (usesFd_extends _).trans (Ledger.use_extends _ _)
  · exact Ledger.misuse_extends _

theorem closesProxyFd_extends : world.closesProxyFd.ledger.Extends world.ledger := by
  unfold closesProxyFd
  split
  · exact (closes_extends _).trans (Ledger.use_extends _ _)
  · exact Ledger.misuse_extends _

theorem frees_extends (pointer : Pointer) (resource : Resource) :
    (world.frees pointer resource).ledger.Extends world.ledger := by
  cases pointer with
  | indeterminate => exact Ledger.misuse_extends _
  | null => exact Ledger.use_extends _ _
  | block => exact (Ledger.release_extends _ _).trans (Ledger.use_extends _ _)

theorem allocates_extends (resource : Resource) (succeeds : Bool) :
    (world.allocates resource succeeds).ledger.Extends world.ledger := by
  cases succeeds with
  | true => exact Ledger.acquire_extends _ _
  | false => exact Ledger.Extends.refl _

theorem handles_extends (request : Request) :
    (world.handles request).ledger.Extends world.ledger := by
  have read := (Ledger.use_extends (world.ledger.use Resource.proxy) Resource.rpc).trans
    (Ledger.use_extends world.ledger Resource.proxy)
  cases request with
  | openFile => exact read
  | closeFile fd => exact (closes_extends fd).trans read
  | transfer fd => exact (usesFd_extends fd).trans read
  | term => exact read
  | invalid => exact read

theorem proceed_extends {succeeds : Bool} (moved : world.proceed succeeds = some next) :
    next.ledger.Extends world.ledger := by
  unfold World.proceed at moved
  cases place : world.stage with
  | installTerm | installInt | installHup | lookupChannel | bindRpmsgChrdev | eptDevName
  | returning =>
      simp only [place, Option.some.injEq] at moved
      exact moved ▸ Ledger.Extends.refl _
  | ctrlChrdevFd | chrdevFd | openEpt =>
      simp only [place, Option.ite_none_left_eq_some, Option.some.injEq] at moved
      exact moved.2 ▸ Ledger.Extends.refl _
  | createEpt | setFd | setActive | checkMalloc | test =>
      simp only [place, Option.some.injEq] at moved
      exact moved ▸ Ledger.use_extends _ _
  | mallocProxy =>
      simp only [place, Option.some.injEq] at moved
      exact moved ▸ allocates_extends _ _
  | mallocRpc | mallocResponse =>
      simp only [place, Option.some.injEq] at moved
      exact moved ▸ (allocates_extends _ _).trans (Ledger.use_extends _ _)
  | initMsg =>
      simp only [place, Option.some.injEq] at moved
      exact moved ▸ usesProxyFd_extends
  | read | respond =>
      simp only [place, Option.some.injEq] at moved
      exact moved ▸ (Ledger.use_extends _ _).trans usesProxyFd_extends
  | handle request =>
      simp only [place, Option.some.injEq] at moved
      exact moved ▸ handles_extends request
  | closeProxyFd =>
      simp only [place, Option.some.injEq] at moved
      exact moved ▸ closesProxyFd_extends
  | freeRpc | freeResponse =>
      simp only [place, Option.some.injEq] at moved
      exact moved ▸ frees_extends _ _
  | closeEpt | closeChar =>
      simp only [place, Option.some.injEq] at moved
      exact moved ▸ closesIfOpen_extends _
  | freeProxy =>
      simp only [place] at moved
      split at moved
      · cases moved
        exact Ledger.release_extends _ _
      · cases moved
        exact Ledger.Extends.refl _
  | done => simp only [place, reduceCtorEq] at moved

/-- Once `proxy` is allocated, the main path changes no descriptor and not the pointer,
and it comes to the end of the set-up only in its order. -/
structure Onward (world next : World) : Prop where
  proxy : next.proxy = world.proxy
  eptFd : next.eptFd = world.eptFd
  rpmsgCharFd : next.rpmsgCharFd = world.rpmsgCharFd
  nullDereferenced : next.nullDereferenced = world.nullDereferenced
  ledger : next.ledger.Extends world.ledger
  later : world.stage.rank ≤ next.stage.rank
  inOrder : next.stage.rank ≤ max 21 (world.stage.rank + 1)

theorem proceed_onward {succeeds : Bool} (late : 11 ≤ world.stage.rank)
    (moved : world.proceed succeeds = some next) : Onward world next := by
  have ledger := proceed_extends moved
  unfold World.proceed at moved
  cases place : world.stage with
  | installTerm | installInt | installHup | lookupChannel | bindRpmsgChrdev | ctrlChrdevFd
  | chrdevFd | createEpt | eptDevName | openEpt | mallocProxy =>
      rw [place] at late
      exact absurd late (by decide)
  | handle request =>
      simp only [place, Option.some.injEq] at moved
      subst moved
      cases request <;>
        exact ⟨rfl, rfl, rfl, rfl, ledger, by simp [place, Stage.rank, handles],
          by simp [place, Stage.rank, handles]⟩
  | freeProxy =>
      simp only [place] at moved
      split at moved <;> cases moved <;>
        exact ⟨rfl, rfl, rfl, rfl, ledger, by simp [place, Stage.rank],
          by simp [place, Stage.rank]⟩
  | done => simp only [place, reduceCtorEq] at moved
  | initMsg | read | respond | checkMalloc | test =>
      simp only [place, Option.some.injEq] at moved
      subst moved
      refine ⟨rfl, rfl, rfl, rfl, ledger, ?_, ?_⟩
      · split <;> simp [place, Stage.rank]
      · split <;> simp [place, Stage.rank]
  | setFd | setActive | mallocRpc | mallocResponse | closeProxyFd | freeRpc | freeResponse
  | closeEpt | closeChar | returning =>
      simp only [place, Option.some.injEq] at moved
      subst moved
      exact ⟨rfl, rfl, rfl, rfl, ledger, by simp [place, Stage.rank],
        by simp [place, Stage.rank]⟩

theorem mainStep_extends {event : Event} (moved : mainStep world event = some next) :
    next.ledger.Extends world.ledger := by
  cases event with
  | main succeeds => exact proceed_extends moved
  | opens fd =>
      rcases opened_cases moved with ⟨_, ⟨_, rfl⟩ | ⟨_, rfl⟩⟩
      · exact Ledger.acquire_extends _ _
      · exact Ledger.acquire_extends _ _
  | receives request =>
      simp only [mainStep, received, Option.ite_none_right_eq_some, Option.some.injEq] at moved
      exact moved.2 ▸ (Ledger.use_extends _ _).trans usesProxyFd_extends
  | signal signal => cases moved
  | handler => cases moved

/-- All descriptors are opened before `proxy` is allocated. -/
theorem opened_early {fd : Nat} (moved : world.opened fd = some next) :
    world.stage.rank < 11 := by
  rcases opened_cases moved with ⟨_, ⟨place | place, _⟩ | ⟨place, _⟩⟩
  · exact place ▸ (by decide : Stage.ctrlChrdevFd.rank < 11)
  · exact place ▸ (by decide : Stage.chrdevFd.rank < 11)
  · exact place ▸ (by decide : Stage.openEpt.rank < 11)

theorem mainStep_onward {event : Event} (late : 11 ≤ world.stage.rank)
    (moved : mainStep world event = some next) : Onward world next := by
  cases event with
  | main succeeds => exact proceed_onward late moved
  | opens fd => exact absurd (opened_early moved) (Nat.not_lt.mpr late)
  | receives request =>
      have ledger := mainStep_extends moved
      simp only [mainStep, received, Option.ite_none_right_eq_some, Option.some.injEq] at moved
      rcases moved with ⟨place, rfl⟩
      exact ⟨rfl, rfl, rfl, rfl, ledger, by simp [place, Stage.rank], by simp [place, Stage.rank]⟩
  | signal signal => cases moved
  | handler => cases moved

/-- What the arrival of a signal and the steps of a handler keep -/
structure Aside (world next : World) : Prop where
  stage : next.stage = world.stage
  proxy : next.proxy = world.proxy
  eptFd : next.eptFd = world.eptFd
  rpmsgCharFd : next.rpmsgCharFd = world.rpmsgCharFd
  rpmsgProxyFd : next.rpmsgProxyFd = world.rpmsgProxyFd
  nullDereferenced : next.nullDereferenced = world.nullDereferenced
  ledger : next.ledger.Extends world.ledger

theorem arrives_aside (signal : Signal) : Aside world (world.arrives signal) := by
  unfold World.arrives
  split <;> exact ⟨rfl, rfl, rfl, rfl, rfl, rfl, Ledger.Extends.refl _⟩

theorem handlerStep_aside (present : world.proxy = true) (frame : Frame) (rest : List Frame) :
    Aside world (world.handlerStep frame rest) := by
  rw [World.handlerStep, if_neg (by rw [present]; exact Bool.noConfusion)]
  cases frame.place with
  | clearActive => exact ⟨rfl, rfl, rfl, rfl, rfl, rfl, Ledger.use_extends _ _⟩
  | closeFd => exact ⟨rfl, rfl, rfl, rfl, rfl, rfl, closesProxyFd_extends⟩
  | freeRpc => exact ⟨rfl, rfl, rfl, rfl, rfl, rfl, frees_extends _ _⟩
  | freeResponse => exact ⟨rfl, rfl, rfl, rfl, rfl, rfl, frees_extends _ _⟩
  | freeProxy => exact ⟨rfl, rfl, rfl, rfl, rfl, rfl, Ledger.release_extends _ _⟩

/-! ## Marks -/

/-- Something has been misused, or will be by the main path alone. -/
inductive Marked (world : World) : Prop
  | misused (misused : world.ledger.misused = true)
  | null (null : world.nullDereferenced = true)
  | freed (late : 11 ≤ world.stage.rank) (before : world.stage.rank ≤ 23)
      (present : world.proxy = true) (released : Resource.proxy ∈ world.ledger.released)
  | closedEpt (late : 11 ≤ world.stage.rank) (before : world.stage.rank ≤ 21) (fd : Nat)
      (opened : world.eptFd = some fd) (released : Resource.eptFd ∈ world.ledger.released)
  | closedChar (late : 11 ≤ world.stage.rank) (before : world.stage.rank ≤ 22) (fd : Nat)
      (opened : world.rpmsgCharFd = some fd) (other : world.eptFd ≠ some fd)
      (released : Resource.rpmsgCharFd ∈ world.ledger.released)
  | closing (fd : Nat) (place : world.stage = Stage.handle (Request.closeFile fd))
      (owned : world.owner fd ≠ none)
  | leaving (place : world.stage = Stage.handle Request.invalid ∨
        world.stage = Stage.closeProxyFd) (fd : Nat)
      (opened : world.eptFd = some fd) (proxyFd : world.rpmsgProxyFd = some fd)

theorem Marked.aside (marked : Marked world) (aside : Aside world next) : Marked next := by
  cases marked with
  | misused misused => exact Marked.misused (aside.ledger.misused misused)
  | null null => exact Marked.null (aside.nullDereferenced.trans null)
  | freed late before present released =>
      exact Marked.freed (aside.stage ▸ late) (aside.stage ▸ before) (aside.proxy.trans present)
        (aside.ledger.released _ released)
  | closedEpt late before fd opened released =>
      exact Marked.closedEpt (aside.stage ▸ late) (aside.stage ▸ before) fd
        (aside.eptFd.trans opened) (aside.ledger.released _ released)
  | closedChar late before fd opened other released =>
      exact Marked.closedChar (aside.stage ▸ late) (aside.stage ▸ before) fd
        (aside.rpmsgCharFd.trans opened) (aside.eptFd ▸ other) (aside.ledger.released _ released)
  | closing fd place owned =>
      refine Marked.closing fd (aside.stage.trans place) ?_
      rw [owner, aside.eptFd, aside.rpmsgCharFd]
      exact owned
  | leaving place fd opened proxyFd =>
      exact Marked.leaving (aside.stage ▸ place) fd (aside.eptFd.trans opened)
        (aside.rpmsgProxyFd.trans proxyFd)

theorem Stage.freeProxy_of_rank {stage : Stage} (last : stage.rank = 23) :
    stage = Stage.freeProxy := by
  cases stage <;> simp [Stage.rank] at last ⊢

theorem Stage.closeEpt_of_rank {stage : Stage} (last : stage.rank = 21) :
    stage = Stage.closeEpt := by
  cases stage <;> simp [Stage.rank] at last ⊢

theorem Stage.closeChar_of_rank {stage : Stage} (last : stage.rank = 22) :
    stage = Stage.closeChar := by
  cases stage <;> simp [Stage.rank] at last ⊢

/-- Outside the set-up and the service loop the main path makes no other step. -/
theorem mainStep_proceed {event : Event} {stage : Stage} (place : world.stage = stage)
    (late : 11 ≤ stage.rank) (notRead : stage ≠ Stage.read)
    (moved : mainStep world event = some next) :
    Exists fun succeeds => world.proceed succeeds = some next := by
  cases event with
  | main succeeds => exact ⟨succeeds, moved⟩
  | opens fd => exact absurd (opened_early moved) (Nat.not_lt.mpr (place ▸ late))
  | receives request =>
      simp only [mainStep, received, Option.ite_none_right_eq_some] at moved
      exact absurd (place.symm.trans moved.1) notRead
  | signal signal => cases moved
  | handler => cases moved

theorem Marked.main {event : Event} (marked : Marked world)
    (moved : mainStep world event = some next) : Marked next := by
  cases marked with
  | misused misused => exact Marked.misused ((mainStep_extends moved).misused misused)
  | null null => exact Marked.null ((mainStep_apart moved).nullDereferenced.trans null)
  | freed late before present released =>
      have onward := mainStep_onward late moved
      by_cases last : world.stage.rank = 23
      · have place := Stage.freeProxy_of_rank last
        rcases mainStep_proceed place (by decide) (by decide) moved with ⟨succeeds, proceeds⟩
        simp only [World.proceed, place, present, if_true, Option.some.injEq] at proceeds
        exact Marked.misused (proceeds ▸ Ledger.release_of_dead fun live => live.2 released)
      · have order := onward.inOrder
        exact Marked.freed (Nat.le_trans late onward.later) (by omega)
          (onward.proxy.trans present) (onward.ledger.released _ released)
  | closedEpt late before fd opened released =>
      have onward := mainStep_onward late moved
      by_cases last : world.stage.rank = 21
      · have place := Stage.closeEpt_of_rank last
        rcases mainStep_proceed place (by decide) (by decide) moved with ⟨succeeds, proceeds⟩
        simp only [World.proceed, place, opened, closesIfOpen, closes, owner_eptFd opened,
          Option.some.injEq] at proceeds
        exact Marked.misused (proceeds ▸ Ledger.release_of_dead fun live => live.2 released)
      · have order := onward.inOrder
        exact Marked.closedEpt (Nat.le_trans late onward.later) (by omega) fd
          (onward.eptFd.trans opened) (onward.ledger.released _ released)
  | closedChar late before fd opened other released =>
      have onward := mainStep_onward late moved
      by_cases last : world.stage.rank = 22
      · have place := Stage.closeChar_of_rank last
        rcases mainStep_proceed place (by decide) (by decide) moved with ⟨succeeds, proceeds⟩
        simp only [World.proceed, place, opened, closesIfOpen, closes, owner_charFd opened other,
          Option.some.injEq] at proceeds
        exact Marked.misused (proceeds ▸ Ledger.release_of_dead fun live => live.2 released)
      · have order := onward.inOrder
        exact Marked.closedChar (Nat.le_trans late onward.later) (by omega) fd
          (onward.rpmsgCharFd.trans opened) (onward.eptFd ▸ other)
          (onward.ledger.released _ released)
  | closing fd place owned =>
      rcases mainStep_proceed place (show 11 ≤ 17 by decide) Stage.noConfusion moved with
        ⟨succeeds, proceeds⟩
      simp only [World.proceed, place, handles, Option.some.injEq] at proceeds
      subst proceeds
      by_cases ept : world.eptFd = some fd
      · refine Marked.closedEpt (show 11 ≤ 17 by decide) (show 17 ≤ 21 by decide) fd ept ?_
        have mine : ((world.uses Resource.proxy).uses Resource.rpc).owner fd =
            some Resource.eptFd := owner_eptFd ept
        simp only [closes, mine]
        exact List.mem_cons_self ..
      · by_cases char : world.rpmsgCharFd = some fd
        · refine Marked.closedChar (show 11 ≤ 17 by decide) (show 17 ≤ 22 by decide) fd char ept ?_
          have mine : ((world.uses Resource.proxy).uses Resource.rpc).owner fd =
              some Resource.rpmsgCharFd := owner_charFd char ept
          simp only [closes, mine]
          exact List.mem_cons_self ..
        · rw [owner, if_neg ept, if_neg char] at owned
          exact absurd rfl owned
  | leaving place fd opened proxyFd =>
      rcases place with place | place
      · rcases mainStep_proceed place (show 11 ≤ 17 by decide) (by decide) moved with
          ⟨succeeds, proceeds⟩
        simp only [World.proceed, place, handles, Option.some.injEq] at proceeds
        subst proceeds
        exact Marked.leaving (Or.inr rfl) fd opened proxyFd
      · rcases mainStep_proceed place (by decide) (by decide) moved with ⟨succeeds, proceeds⟩
        simp only [World.proceed, place, Option.some.injEq] at proceeds
        subst proceeds
        refine Marked.closedEpt (show 11 ≤ 19 by decide) (show 19 ≤ 21 by decide) fd opened ?_
        have mine : (world.uses Resource.proxy).owner fd = some Resource.eptFd :=
          owner_eptFd opened
        simp only [closesProxyFd, proxyFd, closes, mine]
        exact List.mem_cons_self ..

/-! ## Doomed runs -/

/-- The run cannot return disciplined: a handler runs that will find no `proxy` or that
frees it too early, or nobody will free a buffer. -/
inductive Doomed (world : World) : Prop
  | marked (marked : Marked world)
  | absent (running : world.frames ≠ []) (returns : world.stage ≠ Stage.done)
      (missing : world.proxy = false ∨ ¬ world.ledger.Live Resource.proxy)
  | killed (late : 11 ≤ world.stage.rank) (before : world.stage.rank ≤ 23)
      (present : world.proxy = true) (frame : Frame) (runs : frame ∈ world.frames)
      (kills : frame.place ≠ Place.clearActive)
  | leaked (place : 21 ≤ world.stage.rank ∨ world.stage = Stage.checkMalloc ∧
        ¬ (world.rpc = Pointer.block ∧ world.rpcResponse = Pointer.block))
      (present : world.proxy = true)
      (freed : world.stage = Stage.returning -> ¬ world.ledger.Live Resource.proxy)
      (quiet : forall frame, frame ∈ world.frames -> frame.place = Place.clearActive)
      (resource : Resource) (buffer : resource = Resource.rpc ∨ resource = Resource.rpcResponse)
      (acquired : resource ∈ world.ledger.acquired)
      (kept : resource ∉ world.ledger.released)

theorem rank_le_of_ne_done {stage : Stage} (returns : stage ≠ Stage.done)
    (before : stage ≠ Stage.returning) : stage.rank ≤ 23 := by
  cases stage <;> simp [Stage.rank] at returns before ⊢

theorem late_of_leaking {failed : Prop}
    (place : 21 ≤ world.stage.rank ∨ world.stage = Stage.checkMalloc ∧ failed) :
    11 ≤ world.stage.rank := by
  rcases place with late | ⟨place, _⟩
  · exact Nat.le_trans (by decide) late
  · rw [place]
    decide

/-- The descriptors and `proxy` are no buffers. -/
theorem closes_released {fd : Nat}
    (buffer : resource = Resource.rpc ∨ resource = Resource.rpcResponse)
    (kept : resource ∉ world.ledger.released) :
    resource ∉ (world.closes fd).ledger.released := by
  unfold closes
  split
  · rename_i other owned
    have different : resource ≠ other := by
      rintro rfl
      unfold owner at owned
      rcases buffer with rfl | rfl <;> split_ifs at owned <;> exact nomatch owned
    exact fun member => (List.mem_cons.mp member).elim different kept
  · exact kept

theorem closesIfOpen_released {fd : Option Nat}
    (buffer : resource = Resource.rpc ∨ resource = Resource.rpcResponse)
    (kept : resource ∉ world.ledger.released) :
    resource ∉ (world.closesIfOpen fd).ledger.released := by
  cases fd with
  | none => exact kept
  | some fd => exact closes_released buffer kept

theorem Doomed.main {event : Event} (doomed : Doomed world) (idle : world.frames = [])
    (moved : mainStep world event = some next) : Doomed next := by
  cases doomed with
  | marked marked => exact Doomed.marked (marked.main moved)
  | absent running _ _ => exact absurd idle running
  | killed _ _ _ frame runs _ =>
      rw [idle] at runs
      exact nomatch runs
  | leaked place present _ quiet resource buffer acquired kept =>
      have late := late_of_leaking place
      have onward := mainStep_onward late moved
      have notRead : world.stage ≠ Stage.read := by
        rintro atRead
        rcases place with late | ⟨place, _⟩
        · rw [atRead] at late
          exact absurd late (by decide)
        · exact nomatch atRead.symm.trans place
      rcases mainStep_proceed rfl late notRead moved with ⟨succeeds, proceeds⟩
      have quietNext : forall frame, frame ∈ next.frames -> frame.place = Place.clearActive := by
        rw [(proceed_apart proceeds).frames]
        exact quiet
      have presentNext := onward.proxy.trans present
      have acquiredNext := onward.ledger.acquired _ acquired
      have stays : 21 ≤ next.stage.rank ->
          (next.stage = Stage.returning -> ¬ next.ledger.Live Resource.proxy) ->
          resource ∉ next.ledger.released -> Doomed next :=
        fun past freed still => Doomed.leaked (Or.inl past) presentNext freed quietNext resource
          buffer acquiredNext still
      rcases place with past | ⟨place, failed⟩
      · have later : 21 ≤ next.stage.rank := Nat.le_trans past onward.later
        unfold World.proceed at proceeds
        cases place : world.stage with
        | closeEpt | closeChar =>
            simp only [place, Option.some.injEq] at proceeds
            subst proceeds
            exact stays later Stage.noConfusion (closesIfOpen_released buffer kept)
        | freeProxy =>
            simp only [place, present, if_true, Option.some.injEq] at proceeds
            subst proceeds
            refine stays later (fun _ live => live.2 (List.mem_cons_self ..)) ?_
            refine fun member => (List.mem_cons.mp member).elim ?_ kept
            rintro rfl
            rcases buffer with other | other <;> exact nomatch other
        | returning =>
            simp only [place, Option.some.injEq] at proceeds
            subst proceeds
            exact stays later Stage.noConfusion kept
        | done => simp only [place, reduceCtorEq] at proceeds
        | _ =>
            rw [place] at past
            simp [Stage.rank] at past
      · simp only [World.proceed, place, if_neg failed, Option.some.injEq] at proceeds
        subst proceeds
        exact stays (Nat.le_refl 21) Stage.noConfusion kept

theorem killed_of_sighup (late : 11 ≤ world.stage.rank) (before : world.stage.rank ≤ 23)
    (present : world.proxy = true) (installed : Signal.sighup ∈ world.installed) :
    Doomed (world.arrives Signal.sighup) := by
  rw [World.arrives, if_pos installed]
  exact Doomed.killed late before present _ (List.mem_cons_self ..) nofun

/-- A handler that finds `proxy` freed, or no `proxy`, goes wrong with its first
statement. -/
theorem absent_of_handled {signal : Signal} (returns : world.stage ≠ Stage.done)
    (installed : signal ∈ world.installed)
    (missing : world.proxy = false ∨ ¬ world.ledger.Live Resource.proxy) :
    Doomed (world.arrives signal) := by
  rw [World.arrives, if_pos installed]
  exact Doomed.absent (List.cons_ne_nil _ _) returns missing

theorem Doomed.arrives (doomed : Doomed world) (returns : world.stage ≠ Stage.done)
    (signal : Signal) : Doomed (world.arrives signal) := by
  have aside := @arrives_aside world signal
  have listed : forall frame, frame ∈ world.frames -> frame ∈ (world.arrives signal).frames := by
    intro frame runs
    unfold World.arrives
    split
    · exact List.mem_cons_of_mem _ runs
    · exact runs
  cases doomed with
  | marked marked => exact Doomed.marked (marked.aside aside)
  | absent running _ missing =>
      refine Doomed.absent ?_ (aside.stage ▸ returns) ?_
      · rcases List.exists_mem_of_ne_nil _ running with ⟨frame, runs⟩
        exact List.ne_nil_of_mem (listed frame runs)
      · unfold World.arrives
        split <;> exact missing
  | killed late before present frame runs kills =>
      exact Doomed.killed (aside.stage ▸ late) (aside.stage ▸ before)
        (aside.proxy.trans present) frame (listed frame runs) kills
  | leaked place present freed quiet resource buffer acquired kept =>
      by_cases installed : signal ∈ world.installed
      · by_cases live : world.ledger.Live Resource.proxy
        · cases signal with
          | sighup =>
              have before := rank_le_of_ne_done returns fun last => freed last live
              exact killed_of_sighup (late_of_leaking place) before present installed
          | sigterm | sigint =>
              rw [World.arrives, if_pos installed]
              exact Doomed.leaked place present freed (List.forall_mem_cons.mpr ⟨rfl, quiet⟩)
                resource buffer acquired kept
        · exact absent_of_handled returns installed (Or.inr live)
      · rw [World.arrives, if_neg installed]
        exact Doomed.leaked place present freed quiet resource buffer acquired kept

/-- Without `proxy` every statement of a handler goes wrong. -/
theorem handlerStep_missing {frame : Frame} {rest : List Frame}
    (missing : world.proxy = false ∨ ¬ world.ledger.Live Resource.proxy) :
    Marked (world.handlerStep frame rest) := by
  unfold World.handlerStep
  split
  · exact Marked.null rfl
  · rename_i present
    have dead := missing.resolve_left present
    have misused : (world.ledger.use Resource.proxy).misused = true := Ledger.use_of_dead dead
    refine Marked.misused ?_
    cases frame.place with
    | clearActive => exact misused
    | closeFd =>
        show world.closesProxyFd.ledger.misused = true
        unfold closesProxyFd
        split
        · exact (@closes_extends (world.uses Resource.proxy) _).misused misused
        · rfl
    | freeRpc | freeResponse =>
        show (world.frees _ _).ledger.misused = true
        unfold frees
        split
        · rfl
        · exact misused
        · exact (Ledger.release_extends _ _).misused misused
    | freeProxy => exact misused

theorem Doomed.handles (doomed : Doomed world) {frame : Frame} {rest : List Frame}
    (runs : world.frames = frame :: rest) : Doomed (world.handlerStep frame rest) := by
  by_cases missing : world.proxy = false ∨ ¬ world.ledger.Live Resource.proxy
  · exact Doomed.marked (handlerStep_missing missing)
  · rw [not_or, Bool.not_eq_false, not_not] at missing
    rcases missing with ⟨present, live⟩
    have aside := handlerStep_aside present frame rest
    cases doomed with
    | marked marked => exact Doomed.marked (marked.aside aside)
    | absent _ _ absent =>
        rcases absent with null | dead
        · exact Bool.noConfusion (null.symm.trans present)
        · exact absurd live dead
    | killed late before _ other listed kills =>
        have still : forall running, running ∈ (world.handlerStep frame rest).frames ->
            running.place ≠ Place.clearActive -> Doomed (world.handlerStep frame rest) :=
          fun running member bad => Doomed.killed (aside.stage ▸ late) (aside.stage ▸ before)
            (aside.proxy.trans present) running member bad
        have unfolded : ¬ world.proxy = false := by rw [present]; exact Bool.noConfusion
        rw [runs] at listed
        rcases List.mem_cons.mp listed with rfl | later
        · cases place : other.place with
          | clearActive => exact absurd place kills
          | closeFd =>
              refine still { other with place := Place.freeRpc } ?_ Place.noConfusion
              simp only [World.handlerStep, if_neg unfolded, place]
              exact List.mem_cons_self ..
          | freeRpc =>
              refine still { other with place := Place.freeResponse } ?_ Place.noConfusion
              simp only [World.handlerStep, if_neg unfolded, place]
              exact List.mem_cons_self ..
          | freeResponse =>
              refine still { other with place := Place.freeProxy } ?_ Place.noConfusion
              simp only [World.handlerStep, if_neg unfolded, place]
              exact List.mem_cons_self ..
          | freeProxy =>
              refine Doomed.marked (Marked.freed (aside.stage ▸ late) (aside.stage ▸ before)
                (aside.proxy.trans present) ?_)
              simp only [World.handlerStep, if_neg unfolded, place]
              exact List.mem_cons_self ..
        · refine still other ?_ kills
          simp only [World.handlerStep, if_neg unfolded]
          cases frame.place <;> first
            | exact later
            | exact List.mem_cons_of_mem _ later
    | leaked place _ freed quiet resource buffer acquired kept =>
        have exits := quiet frame (by rw [runs]; exact List.mem_cons_self ..)
        rw [World.handlerStep, if_neg (by rw [present]; exact Bool.noConfusion), exits]
        refine Doomed.leaked place present (fun last => absurd live (freed last)) ?_ resource
          buffer acquired kept
        exact fun other member => quiet other (by rw [runs]; exact List.mem_cons_of_mem _ member)

theorem Doomed.step {event : Event} (doomed : Doomed world)
    (moved : ProxyMain.step world event = some next) : Doomed next := by
  unfold ProxyMain.step at moved
  rcases Option.ite_none_left_eq_some.mp moved with ⟨running, moves⟩
  rw [not_or] at running
  cases event with
  | main succeeds =>
      rcases Option.ite_none_right_eq_some.mp moves with ⟨idle, stepped⟩
      exact doomed.main idle stepped
  | opens fd =>
      rcases Option.ite_none_right_eq_some.mp moves with ⟨idle, stepped⟩
      exact doomed.main idle stepped
  | receives request =>
      rcases Option.ite_none_right_eq_some.mp moves with ⟨idle, stepped⟩
      exact doomed.main idle stepped
  | signal signal =>
      rcases Option.ite_none_left_eq_some.mp moves with ⟨_, arrived⟩
      exact Option.some.inj arrived ▸ doomed.arrives running.2 signal
  | handler =>
      cases runs : world.frames with
      | nil => simp only [runs, reduceCtorEq] at moves
      | cons frame rest =>
          simp only [runs, Option.some.injEq] at moves
          exact moves ▸ doomed.handles runs

/-- A doomed run that has returned is not disciplined. -/
theorem Doomed.not_disciplined (doomed : Doomed world) (returned : world.stage = Stage.done) :
    ¬ Disciplined world := by
  intro disciplined
  have last : world.stage.rank = 25 := by rw [returned, Stage.rank]
  cases doomed with
  | marked marked =>
      cases marked with
      | misused misused => exact nomatch misused.symm.trans disciplined.unused
      | null null => exact nomatch null.symm.trans disciplined.noNull
      | freed _ before _ _ => omega
      | closedEpt _ before _ _ _ => omega
      | closedChar _ before _ _ _ _ => omega
      | closing _ place _ => exact nomatch returned.symm.trans place
      | leaving place _ _ _ =>
          rcases place with place | place <;> exact nomatch returned.symm.trans place
  | absent _ returns _ => exact returns returned
  | killed _ before _ _ _ _ => omega
  | leaked _ _ _ _ resource _ acquired kept =>
      have once := disciplined.settled returned resource acquired
      rw [List.count_eq_zero_of_not_mem kept] at once
      exact nomatch once

/-! ## Steps that are not harmless -/

/-- `proxy` is set only once it is allocated. -/
theorem StageOk.rank_of_proxy (ok : StageOk world) (present : world.proxy = true) :
    11 ≤ world.stage.rank := by
  cases place : world.stage with
  | installTerm | installInt | installHup | lookupChannel | bindRpmsgChrdev | ctrlChrdevFd
  | chrdevFd | createEpt | eptDevName | openEpt | mallocProxy =>
      simp only [StageOk, place] at ok
      exact Bool.noConfusion (present.symm.trans ok.proxy)
  | _ => simp [Stage.rank]

theorem Serving.eptOpened (serving : Serving world) :
    Exists fun fd => world.eptFd = some fd ∧ world.rpmsgProxyFd = some fd := by
  rcases Option.isSome_iff_exists.mp serving.holds.ept with ⟨fd, opened⟩
  exact ⟨fd, opened, serving.proxyFd.trans opened⟩

/-- The normal exit closes the endpoint and then falls through to the close again. -/
theorem Serving.leaving (serving : Serving world) (active : Bool) :
    Doomed { world with stage := Stage.closeProxyFd, active := active } := by
  rcases serving.eptOpened with ⟨fd, opened, proxyFd⟩
  exact Doomed.marked (Marked.leaving (Or.inr rfl) fd opened proxyFd)

theorem Orderly.mallocResponse_dooms (orderly : Orderly world) (idle : world.frames = [])
    {succeeds : Bool} (place : world.stage = Stage.mallocResponse)
    (differ : ¬ (succeeds = true ↔ world.rpc = Pointer.block))
    (moved : world.proceed succeeds = some next) : Doomed next := by
  have stage := orderly.stage
  simp only [StageOk, place] at stage
  simp only [World.proceed, place, Option.some.injEq] at moved
  subst moved
  have quiet : forall frame, frame ∈ world.frames -> frame.place = Place.clearActive := by
    rw [idle]
    exact fun _ runs => absurd runs List.not_mem_nil
  rcases stage with ⟨⟨holds, null⟩ | ⟨holds, block⟩, _⟩
  · have succeeded : succeeds = true := by
      by_contra failed
      exact differ ⟨fun yes => absurd yes failed,
        fun block => Pointer.noConfusion (null.symm.trans block)⟩
    subst succeeded
    rw [uses_of_live (holds.live (by decide) List.not_mem_nil)]
    refine Doomed.leaked
      (Or.inr ⟨rfl, fun both => Pointer.noConfusion (null.symm.trans both.1)⟩) holds.proxy
      Stage.noConfusion quiet Resource.rpcResponse (Or.inr rfl) (List.mem_cons_self ..) ?_
    exact holds.released ▸ List.not_mem_nil
  · have failed : succeeds = false := by
      by_contra succeeded
      exact differ ⟨fun _ => block, fun _ => eq_true_of_ne_false succeeded⟩
    subst failed
    rw [uses_of_live (holds.live (by decide) List.not_mem_nil)]
    refine Doomed.leaked (Or.inr ⟨rfl, fun both => Pointer.noConfusion both.2⟩) holds.proxy
      Stage.noConfusion quiet Resource.rpc (Or.inl rfl) ?_ (holds.released ▸ List.not_mem_nil)
    exact holds.acquired ▸ List.mem_cons_self ..

theorem Orderly.initMsg_dooms (orderly : Orderly world) (idle : world.frames = [])
    (place : world.stage = Stage.initMsg) (moved : world.proceed false = some next) :
    Doomed next := by
  have serving := orderly.stage
  simp only [StageOk, place] at serving
  simp only [World.proceed, place, serving.usesProxyFd, Option.some.injEq] at moved
  subst moved
  refine Doomed.leaked (Or.inl (Nat.le_refl 21)) serving.holds.proxy Stage.noConfusion ?_
    Resource.rpc (Or.inl rfl) (serving.live Resource.rpc).1 (serving.live Resource.rpc).2
  intro frame runs
  rw [show _ = [] from idle] at runs
  exact absurd runs List.not_mem_nil

theorem Orderly.main_dooms (orderly : Orderly world) (idle : world.frames = [])
    {succeeds : Bool} (harmful : ¬ Harmless world (Event.main succeeds))
    (moved : world.proceed succeeds = some next) : Doomed next := by
  have stage := orderly.stage
  have calls : succeeds ≠ true -> succeeds = false := eq_false_of_ne_true
  cases place : world.stage with
  | mallocResponse =>
      refine orderly.mallocResponse_dooms idle place (fun agree => harmful ?_) moved
      simp [Harmless, place, agree]
  | initMsg =>
      have failed := calls fun succeeded => harmful (by simp [Harmless, place, succeeded])
      subst failed
      exact orderly.initMsg_dooms idle place moved
  | read =>
      have failed := calls fun succeeded => harmful (by simp [Harmless, place, succeeded])
      subst failed
      simp only [StageOk, place] at stage
      simp only [World.proceed, place, stage.usesProxyFd, stage.uses, Option.some.injEq] at moved
      exact moved ▸ stage.leaving _
  | respond =>
      have failed := calls fun succeeded => harmful (by simp [Harmless, place, succeeded])
      subst failed
      simp only [StageOk, place] at stage
      simp only [World.proceed, place, stage.usesProxyFd, stage.uses, Option.some.injEq] at moved
      exact moved ▸ stage.leaving _
  | test =>
      have inactive : ¬ world.active = true :=
        fun active => harmful (by simp [Harmless, place, active])
      simp only [StageOk, place] at stage
      simp only [World.proceed, place, stage.uses, if_neg inactive, Option.some.injEq] at moved
      exact moved ▸ stage.leaving _
  | _ => exact absurd (by simp [Harmless, place]) harmful

theorem Orderly.received_dooms (orderly : Orderly world) {request : Request}
    (improper : ¬ Proper world request) (moved : world.received request = some next) :
    Doomed next := by
  rcases Option.ite_none_right_eq_some.mp moved with ⟨place, moves⟩
  have serving := orderly.stage
  simp only [StageOk, place] at serving
  rw [serving.usesProxyFd, serving.uses] at moves
  cases moves
  rcases serving.eptOpened with ⟨fd, opened, proxyFd⟩
  cases request with
  | closeFile other => exact Doomed.marked (Marked.closing other rfl improper)
  | invalid => exact Doomed.marked (Marked.leaving (Or.inl rfl) fd opened proxyFd)
  | openFile | transfer _ | term => exact absurd trivial improper

/-- When `main()` returns, `proxy` has been freed. -/
theorem StageOk.freed (ok : StageOk world) (last : world.stage = Stage.returning) :
    ¬ world.ledger.Live Resource.proxy := by
  intro live
  rw [StageOk, last] at ok
  have once := ok Resource.proxy live.1
  rw [List.count_eq_zero_of_not_mem live.2] at once
  exact absurd once (by decide)

theorem Orderly.signal_dooms (orderly : Orderly world) (returns : world.stage ≠ Stage.done)
    {signal : Signal} (harmful : ¬ Harmless world (Event.signal signal)) :
    Doomed (world.arrives signal) := by
  rw [Harmless, Classical.not_imp] at harmful
  rcases harmful with ⟨installed, unmet⟩
  by_cases served : world.proxy = true ∧ world.ledger.Live Resource.proxy
  · have hangUp : signal = Signal.sighup := by
      by_contra other
      exact unmet ⟨other, served⟩
    subst hangUp
    have before := rank_le_of_ne_done returns fun last => orderly.stage.freed last served.2
    exact killed_of_sighup (orderly.stage.rank_of_proxy served.1) before served.1 installed
  · refine absent_of_handled returns installed ?_
    rcases not_and_or.mp served with absent | dead
    · exact Or.inl (eq_false_of_ne_true absent)
    · exact Or.inr dead

theorem Ok.dooms {event : Event} (ok : Ok world) (harmful : ¬ Harmless world event)
    (moved : ProxyMain.step world event = some next) : Doomed next := by
  unfold ProxyMain.step at moved
  rcases Option.ite_none_left_eq_some.mp moved with ⟨running, moves⟩
  cases event with
  | main succeeds =>
      rcases Option.ite_none_right_eq_some.mp moves with ⟨idle, stepped⟩
      exact ok.orderly.main_dooms idle harmful stepped
  | receives request =>
      rcases Option.ite_none_right_eq_some.mp moves with ⟨_, stepped⟩
      exact ok.orderly.received_dooms harmful stepped
  | signal signal =>
      rcases Option.ite_none_left_eq_some.mp moves with ⟨_, arrived⟩
      exact Option.some.inj arrived ▸
        ok.orderly.signal_dooms (fun returned => running (Or.inr returned)) harmful
  | opens _ | handler => exact absurd trivial harmful

/-! ## Runs -/

open Transition

theorem disciplined_of_harmless (schedule : List Event)
    (harmless : Guarded Harmless step initial schedule) :
    Always Disciplined step initial schedule :=
  always_of_guarded Ok (fun _ ok => ok.orderly.disciplined)
    (fun _ _ _ ok harmless moved => ok.step harmless moved) schedule ok_initial harmless

/-- Harmless steps keep the discipline, and a run that returns keeps it only if all its steps are
harmless. A run has returned when the process has ended, so signals that arrive after the last
release and before the return of `main()` count. As long as a run goes on, what a step has left
behind need not show, so the second half asks for its end. -/
theorem disciplined_iff_harmless (schedule : List Event) :
    (Guarded Harmless step initial schedule -> Always Disciplined step initial schedule) ∧
      forall final, run step initial schedule = some final -> final.stage = Stage.done ->
        (Always Disciplined step initial schedule ↔ Guarded Harmless step initial schedule) := by
  refine ⟨disciplined_of_harmless schedule, ?_⟩
  intro final reached returned
  refine ⟨fun always => ?_, disciplined_of_harmless schedule⟩
  exact guarded_of_doomed Ok Doomed (fun _ _ _ ok harmless moved => ok.step harmless moved)
    (fun _ _ _ ok harmful moved => ok.dooms harmful moved)
    (fun _ _ _ doomed moved => doomed.step moved) ok_initial reached
    (fun doomed => doomed.not_disciplined returned (always.last reached))

/-- The set-up up to the allocation of the buffers -/
def setUp : List Event :=
  List.replicate 5 (Event.main true) ++ [Event.opens 3, Event.main true, Event.main true,
    Event.opens 4] ++ List.replicate 3 (Event.main true)

/-- A signal arrives, no buffer is allocated, and `main()` returns. -/
def outOfMemory : List Event :=
  setUp ++ [Event.signal Signal.sigterm, Event.handler] ++ List.replicate 7 (Event.main false)

theorem outOfMemory_disciplined :
    Always Disciplined step initial outOfMemory ∧ Guarded Harmless step initial outOfMemory := by
  have returns : (run step initial outOfMemory).isSome = true := by decide
  have disciplined := (disciplined_iff_harmless outOfMemory).1 (by decide)
  refine ⟨disciplined, ?_⟩
  exact ((disciplined_iff_harmless outOfMemory).2 ((run step initial outOfMemory).get returns)
    (Option.some_get returns).symm rfl).mp disciplined

/-- The remote asks to terminate, and `main()` returns. -/
def terminates : List Event :=
  setUp ++ List.replicate 4 (Event.main true) ++ [Event.receives Request.term] ++
    List.replicate 9 (Event.main true)

/-- No buffer is allocated, and a signal arrives when `proxy` has been freed. -/
def signalAtReturn : List Event :=
  setUp ++ List.replicate 6 (Event.main false) ++ [Event.signal Signal.sigterm, Event.handler]

/-- The normal exit closes the endpoint twice; a signal during the set-up finds no
`proxy`, and one that arrives while `main()` returns finds it freed. -/
theorem terminates_not_disciplined :
    (run step initial terminates).map (fun world => (world.stage, world.ledger.released)) =
        some (Stage.done, [Resource.proxy, Resource.rpmsgCharFd, Resource.eptFd,
          Resource.rpcResponse, Resource.rpc, Resource.eptFd]) ∧
      ¬ Always Disciplined step initial terminates ∧
      ¬ Always Disciplined step initial
        [Event.main true, Event.signal Signal.sigterm, Event.handler] ∧
      ¬ Always Disciplined step initial signalAtReturn := by
  refine ⟨by decide, ?_, ?_, ?_⟩
  · intro always
    exact absurd (always.last rfl).unused (by decide)
  · intro always
    exact absurd (always.last rfl).noNull (by decide)
  · intro always
    exact absurd (always.last rfl).unused (by decide)

end World
end ProxyMain
end OpenAmpReference
