import Mctpd.Engine

/-!
# The receive loop of the PCIe driver

`PCIeDriver::pollRx` waits, with `streamMonitor.async_wait`, for the PCIe
stream descriptor to become readable, assigning the descriptor to
`streamMonitor` on its first call. The handler of the wait calls
`mctp_nupcie_rx(pcie)`, which reads what arrived, and then `pollRx()` again,
so that one wait follows another for the daemon's lifetime. On an error code
the handler logs and calls `pollRx()`, and then, as it does not return, goes
on to `mctp_nupcie_rx` and `pollRx()` as on success.

The state is what `pollRx` and its handler touch: whether the descriptor is
assigned, the waits not completed yet, the calls of `mctp_nupcie_rx` and the
errors logged. A run is the first `pollRx`, then completions, each of one
outstanding wait.

* `waits_run`: a wait is always outstanding, so that each completion completes
  one, and the waits outstanding are one more than the error completions so
  far;
* `pollRx_error_leaves_two_waits`: from an error completion on, two waits or
  more are outstanding, whatever completes after;
* `pollRx_receive_loop`: over every run, the descriptor is assigned, and each
  completion, failed or not, reads once with `mctp_nupcie_rx`.
-/

namespace Mctpd

/-- The part of `hw::nuvoton::PCIeDriver` that `pollRx` and its handler touch. -/
structure PCIeDriver where
  /-- `streamMonitor.is_open()`: the PCIe descriptor is assigned to it. -/
  isOpen : Bool
  /-- The `streamMonitor.async_wait`s not completed yet. -/
  waits : Nat
  /-- The calls of `mctp_nupcie_rx(pcie)`. -/
  rxCalls : Nat
  /-- The lines "Error reading PCIe response" logged. -/
  errorsLogged : Nat
  deriving DecidableEq, Repr

namespace PCIeDriver

/-- `PCIeDriver(ioc)`: `streamMonitor` is constructed on `ioc`, with no
    descriptor. -/
def init : PCIeDriver := ⟨false, 0, 0, 0⟩

/-- `pollRx()`: assigns the descriptor to `streamMonitor` if it is not open,
    and arms one wait. -/
def pollRx (d : PCIeDriver) : PCIeDriver :=
  let d := if !d.isOpen then { d with isOpen := true } else d
  { d with waits := d.waits + 1 }

/-- The handler of the wait, run with `ec`: on an error it logs and calls
    `pollRx()`; then, error or not, it calls `mctp_nupcie_rx(pcie)` and
    `pollRx()`. -/
def pollRxHandler (d : PCIeDriver) (ec : ErrorCode) : PCIeDriver :=
  let d := if ec ≠ .success then pollRx { d with errorsLogged := d.errorsLogged + 1 } else d
  pollRx { d with rxCalls := d.rxCalls + 1 }

/-- An outstanding wait completes with `ec`, and its handler runs. (After the
    first `pollRx` a wait is always outstanding: `waits_run`.) -/
def complete (d : PCIeDriver) (ec : ErrorCode) : PCIeDriver :=
  pollRxHandler { d with waits := d.waits - 1 } ec

/-- The driver after the first `pollRx` and the completions `ecs`, in turn. -/
def run (ecs : List ErrorCode) : PCIeDriver := ecs.foldl complete init.pollRx

@[simp] theorem pollRx_isOpen (d : PCIeDriver) : (pollRx d).isOpen = true := by
  unfold pollRx; cases h : d.isOpen <;> simp [h]

@[simp] theorem pollRx_waits (d : PCIeDriver) : (pollRx d).waits = d.waits + 1 := by
  unfold pollRx; split <;> rfl

@[simp] theorem pollRx_rxCalls (d : PCIeDriver) : (pollRx d).rxCalls = d.rxCalls := by
  unfold pollRx; split <;> rfl

@[simp] theorem pollRx_errorsLogged (d : PCIeDriver) :
    (pollRx d).errorsLogged = d.errorsLogged := by
  unfold pollRx; split <;> rfl

/-- What one completion does: it re-arms one wait on success and two on an
    error, reads once, and logs an error. -/
theorem complete_eq (d : PCIeDriver) (ec : ErrorCode) :
    (d.complete ec).isOpen = true ∧
      (d.complete ec).waits = d.waits - 1 + (if ec = .success then 1 else 2) ∧
      (d.complete ec).rxCalls = d.rxCalls + 1 ∧
      (d.complete ec).errorsLogged = d.errorsLogged + (if ec = .success then 0 else 1) := by
  unfold complete pollRxHandler
  by_cases hec : ec = .success <;> simp [hec]

theorem run_append_singleton (ecs : List ErrorCode) (ec : ErrorCode) :
    run (ecs ++ [ec]) = (run ecs).complete ec := by
  rw [run, List.foldl_append]; rfl

/-- Over every run, the waits outstanding are one more than the error
    completions so far. -/
theorem waits_run (ecs : List ErrorCode) :
    (run ecs).waits = 1 + ecs.countP (· ≠ .success) := by
  induction ecs using List.reverseRecOn with
  | nil => rfl
  | append_singleton ecs ec ih =>
    rw [run_append_singleton, (complete_eq _ ec).2.1, ih, List.countP_append]
    by_cases hec : ec = .success <;> simp [hec] <;> omega

/-- An error completion starts two waits: the handler calls `pollRx()` in its
    error branch and goes on to the `pollRx()` after `mctp_nupcie_rx`. So from
    an error on, whatever completes after, two waits or more are
    outstanding. -/
theorem pollRx_error_leaves_two_waits (ecs ecs' : List ErrorCode) {ec : ErrorCode}
    (hec : ec ≠ .success) : 2 ≤ (run (ecs ++ ec :: ecs')).waits := by
  rw [waits_run, List.countP_append, List.countP_cons, if_pos (decide_eq_true hec)]
  omega

/-- The first completion fails: two waits are outstanding. -/
theorem pollRx_first_completion_fails :
    ErrorCode.failed ≠ .success ∧ 2 ≤ (run [.failed]).waits :=
  ⟨by decide, pollRx_error_leaves_two_waits [] [] (by decide)⟩

/-- The calls of `mctp_nupcie_rx` and the errors logged over every run. -/
theorem reads_run (ecs : List ErrorCode) :
    (run ecs).rxCalls = ecs.length ∧ (run ecs).errorsLogged = ecs.countP (· ≠ .success) := by
  induction ecs using List.reverseRecOn with
  | nil => exact ⟨rfl, rfl⟩
  | append_singleton ecs ec ih =>
    obtain ⟨-, -, hrx, hlog⟩ := complete_eq (run ecs) ec
    rw [run_append_singleton, hrx, hlog, ih.1, ih.2, List.countP_append, List.length_append]
    by_cases hec : ec = .success <;> simp [hec]

/-- The receive loop over every sequence of completions after the first
    `pollRx`: the descriptor is assigned; a wait is outstanding for each
    completion to complete, one more than the error completions so far; and
    each completion, failed or not, reads once with `mctp_nupcie_rx`, an
    error being logged once. -/
theorem pollRx_receive_loop (ecs : List ErrorCode) :
    (run ecs).isOpen = true ∧ (run ecs).waits = 1 + ecs.countP (· ≠ .success) ∧
      (run ecs).rxCalls = ecs.length ∧ (run ecs).errorsLogged = ecs.countP (· ≠ .success) := by
  refine ⟨?_, waits_run ecs, reads_run ecs⟩
  cases ecs using List.reverseRecOn with
  | nil => rfl
  | append_singleton ecs ec => rw [run_append_singleton]; exact (complete_eq _ ec).1

/-- Two successful completions, then one that fails: two waits outstanding. -/
example : run [.success, .success, .failed] = ⟨true, 2, 3, 1⟩ := by decide

end PCIeDriver

end Mctpd
