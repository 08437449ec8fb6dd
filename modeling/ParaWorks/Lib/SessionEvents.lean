import Mathlib.Logic.Function.Iterate
import Mathlib.Data.List.Basic

/-!
# The events of a session

The transactions of a session and the order in which SQLAlchemy tells the listeners of it. A transaction is named by the
identity of its object; the innermost one comes first, and the last one is the outermost.
-/

namespace ParaWorks.Lib.SessionEvents

variable {σ : Type}

/-- What the listeners do. Each is told the transactions that are open; the last two are told which one has ended, and
those that are left. -/
structure Hooks (σ : Type) where
  beforeCommit : List Nat → σ → σ
  afterCommit : List Nat → σ → σ
  afterTransactionEnd : Nat → List Nat → σ → σ
  afterSoftRollback : Nat → List Nat → σ → σ

structure Session (σ : Type) where
  transactions : List Nat
  info : σ

/-- What an application asks of a session. A number is the depth of a transaction that it has a handle of, an identity that
of a transaction that begins. -/
inductive Command where
  /-- `session.begin()`, or any use of a session that begins one. -/
  | begin (identity : Nat)
  /-- `session.begin_nested()`, with the identity of the outermost one where there is none yet. -/
  | beginNested (outermost identity : Nat)
  /-- `commit()` of a handle. -/
  | commitAt (depth : Nat)
  /-- `rollback()` of a handle. -/
  | rollbackAt (depth : Nat)
  /-- `session.commit()`, with the identity of a transaction where there is none yet. -/
  | commit (identity : Nat)
  /-- `session.rollback()`. -/
  | rollback
  /-- `session.close()`. -/
  | close
  deriving DecidableEq

section events

variable (hooks : Hooks σ)

/-- `SessionTransaction.close` of the innermost transaction. -/
def closeTop (s : Session σ) : Session σ :=
  match s.transactions with
  | [] => s
  | t::ts => ⟨ts,hooks.afterTransactionEnd t ts s.info⟩

/-- The start of a commit. -/
def announce (s : Session σ) : Session σ := { s with info := hooks.beforeCommit s.transactions s.info }

/-- The end of a commit. -/
def settle (s : Session σ) : Session σ := closeTop hooks { s with info := hooks.afterCommit s.transactions s.info }

/-- `SessionTransaction.commit` of the innermost transaction. -/
def commitTop (s : Session σ) : Session σ := settle hooks (announce hooks s)

/-- `SessionTransaction.commit` of a transaction: those inside it are committed once its own commit was announced. -/
def commitAt (depth : Nat) (s : Session σ) : Session σ := settle hooks ((commitTop hooks)^[depth] (announce hooks s))

/-- `SessionTransaction.rollback` of the innermost transaction. -/
def rollbackTop (s : Session σ) : Session σ :=
  match s.transactions with
  | [] => s
  | t::ts =>
    let closed := closeTop hooks s
    { closed with info := hooks.afterSoftRollback t ts closed.info }

/-- `SessionTransaction.rollback` of a transaction: those inside it are closed first. -/
def rollbackAt (depth : Nat) (s : Session σ) : Session σ := rollbackTop hooks ((closeTop hooks)^[depth] s)

def begin (identity : Nat) (s : Session σ) : Session σ :=
  if s.transactions = [] then { s with transactions := [identity] } else s

def step (s : Session σ) : Command → Session σ
  | .begin identity => begin identity s
  | .beginNested outermost identity =>
    let begun := begin outermost s
    { begun with transactions := identity::begun.transactions }
  | .commitAt depth => if depth < s.transactions.length then commitAt hooks depth s else s
  | .rollbackAt depth => if depth < s.transactions.length then rollbackAt hooks depth s else s
  | .commit identity =>
    let begun := begin identity s
    (commitTop hooks)^[begun.transactions.length] begun
  | .rollback => (rollbackTop hooks)^[s.transactions.length] s
  | .close => (closeTop hooks)^[s.transactions.length] s

end events

/-- A transaction with those inside it and those around it. -/
theorem split_transactions {ts : List Nat} {depth : Nat} (h : depth < ts.length) :
    ∃ front t rest, ts = front++t::rest ∧ front.length = depth :=
  ⟨ts.take depth,ts[depth],ts.drop (depth+1),by simp,by simp; omega⟩

end ParaWorks.Lib.SessionEvents
