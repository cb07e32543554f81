import Mathlib.Data.List.Basic
import Mathlib.Tactic

namespace GraphBlocks.RaisingMethods

/-- A method on objects of type `σ` that returns an `α` or raises an `ε`. -/
abbrev Method (σ ε α:Type) := ExceptT ε (StateM σ) α

variable {σ ε α β γ:Type}

/-- The call of a method on an object: what it returns or raises, and the object after it. -/
def Method.on (m:Method σ ε α) (s:σ) : Except ε α×σ := m.run.run s

/-- A check that leaves the object alone. -/
def raising (wrap:γ→ε) : Except γ α→Method σ ε α
 | .ok a=>pure a
 | .error e=>throw (wrap e)

variable {m:Method σ ε α} {t:σ}

lemma on_bind_ok{f:α→Method σ ε β}{s:σ}{a:α}(h:m.on s=(.ok a,t)):(m >>= f).on s=(f a).on t:=by
 simp only [Method.on,ExceptT.run_bind,StateT.run_bind] at h ⊢
 rw [h]
 rfl

lemma on_bind_error{f:α→Method σ ε β}{s:σ}{e:ε}(h:m.on s=(.error e,t)):
  (m >>= f).on s=(.error e,t):=by
 simp only [Method.on,ExceptT.run_bind,StateT.run_bind] at h ⊢
 rw [h]
 rfl

/-- Called on `s`, the method returns into `Q` or raises into `E`. -/
def Ends (m:Method σ ε α) (s:σ) (Q:α→σ→Prop) (E:ε→σ→Prop) : Prop :=
 (∀a t,m.on s=(.ok a,t)→Q a t) ∧ ∀e t,m.on s=(.error e,t)→E e t

variable {s:σ} {Q Q':α→σ→Prop} {R:β→σ→Prop} {E E':ε→σ→Prop}

lemma ends_of_on_ok{a:α}(h:m.on s=(.ok a,t)):Ends m s Q E↔Q a t:=by
 simp only [Ends,h,Prod.mk.injEq,Except.ok.injEq,and_imp,reduceCtorEq,implies_true,
  and_true,IsEmpty.forall_iff]
 exact ⟨fun hall=>hall a t rfl rfl,fun hq _ _ ha ht=>ha▸ht▸hq⟩

lemma ends_of_on_error{e:ε}(h:m.on s=(.error e,t)):Ends m s Q E↔E e t:=by
 simp only [Ends,h,Prod.mk.injEq,Except.error.injEq,and_imp,reduceCtorEq,implies_true,
  true_and,IsEmpty.forall_iff]
 exact ⟨fun hall=>hall e t rfl rfl,fun he _ _ h1 h2=>h1▸h2▸he⟩

lemma ends_pure(a:α):Ends (pure a:Method σ ε α) s Q E↔Q a s:=ends_of_on_ok rfl

lemma ends_throw(e:ε):Ends (throw e:Method σ ε α) s Q E↔E e s:=ends_of_on_error rfl

lemma ends_get{Q:σ→σ→Prop}:Ends (get:Method σ ε σ) s Q E↔Q s s:=ends_of_on_ok rfl

lemma ends_modify(f:σ→σ){Q:PUnit→σ→Prop}:
  Ends (modify f:Method σ ε PUnit) s Q E↔Q ⟨⟩ (f s):=ends_of_on_ok rfl

lemma ends_bind(m:Method σ ε α)(f:α→Method σ ε β):
  Ends (m >>= f) s R E↔Ends m s (fun a t=>Ends (f a) t R E) E:=by
 cases h:m.on s with
 | mk result t=>
  cases result with
  | ok a=>rw [ends_of_on_ok h,Ends,on_bind_ok h,Ends]
  | error e=>rw [ends_of_on_error h,ends_of_on_error (on_bind_error h)]

lemma ends_map(m:Method σ ε α)(f:α→β):Ends (f <$> m) s R E↔Ends m s (fun a t=>R (f a) t) E:=by
 rw [map_eq_pure_bind,ends_bind]
 simp only [ends_pure]

lemma ends_raising(wrap:γ→ε)(x:Except γ α):Ends (raising wrap x:Method σ ε α) s Q E ↔
   (∀a,x=.ok a→Q a s)∧∀e,x=.error e→E (wrap e) s:=by
 cases x with
 | ok a=>simp [raising,ends_pure]
 | error e=>simp [raising,ends_throw]

lemma Ends.weaken(h:Ends m s Q E)(hQ:∀a t,Q a t→Q' a t)(hE:∀e t,E e t→E' e t):Ends m s Q' E':=
 ⟨fun a t ht=>hQ a t (h.1 a t ht),fun e t ht=>hE e t (h.2 e t ht)⟩

lemma Ends.call(h:Ends m s Q E):
  (∃a,(m.on s).1=.ok a∧Q a (m.on s).2) ∨ ∃e,(m.on s).1=.error e∧E e (m.on s).2:=by
 cases hcall:m.on s with
 | mk result t=>
  cases result with
  | ok a=>exact .inl ⟨a,rfl,h.1 a t hcall⟩
  | error e=>exact .inr ⟨e,rfl,h.2 e t hcall⟩

end GraphBlocks.RaisingMethods
