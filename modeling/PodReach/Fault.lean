import PodReach.Mistake

/-!
# What can go wrong

Three layers. A `Fault` is what a call to the cluster or to a connection reports. A `Failure`
is an expected failure of an operation, with its cause; its wording is in `Failure.message`
alone. A `Halt` is everything that ends an operation early, expected or not.
-/

namespace PodReach

/-- What a call to the cluster or to an open connection can report. -/
inductive Fault
  | api (status : Int) (reason : Option String)
  | websocket (detail : String)
  | os (detail : String)
  | http (detail : String)
  deriving DecidableEq, Repr, Inhabited

namespace Fault

/-- The reason of an answer, shown also when it has none. -/
def reasonText (reason : Option String) : String := reason.getD "None"

/-- The text of a fault inside a longer message. -/
def detail : Fault → String
  | api status reason => s!"({status})\nReason: {reasonText reason}\n"
  | websocket text => text
  | os text => text
  | http text => text

/-- The answer for an object that does not exist. -/
def notFound : Fault := api 404 (some "Not Found")

/-- The answer to creating an object that exists. -/
def conflict : Fault := api 409 (some "Conflict")

end Fault

/-- The expected failures of an operation. -/
inductive Failure
  | noContainers (pod : String)
  | noSuchContainer (pod container : String)
  | noMatchLabels (deployment : String)
  | noCloudAccount
  | invalidPort (written : String)
  | portOutOfRange (written : String)
  | remotePortZero (written : String)
  | criticalPod (name : Option String) (status : String)
  | waitTimeout (selector ns : String)
  | noMatchingPod (selector ns : String)
  | cannotConnect (pod container detail : String)
  | connectionLost (detail : String)
  | statusUnreadable (raw : String)
  | remoteFailure (message : String)
  | logBroken (detail : String)
  | cannotListen (addresses : List String) (port : Nat)
  | podGone (name : String)
  deriving DecidableEq, Repr, Inhabited

/-- The families of expected failures. -/
inductive FailureKind
  | configuration
  | criticalPod
  | waitTimeout
  | noMatchingPod
  | transport
  deriving DecidableEq, Repr, Inhabited

namespace Failure

/-- The family of a failure. -/
def kind : Failure → FailureKind
  | noContainers _ | noSuchContainer _ _ | noMatchLabels _ | noCloudAccount
  | invalidPort _ | portOutOfRange _ | remotePortZero _ => .configuration
  | criticalPod _ _ => .criticalPod
  | waitTimeout _ _ => .waitTimeout
  | noMatchingPod _ _ => .noMatchingPod
  | cannotConnect _ _ _ | connectionLost _ | statusUnreadable _ | remoteFailure _
  | logBroken _ | cannotListen _ _ | podGone _ => .transport

/-- The text shown for a failure. -/
def message : Failure → String
  | noContainers pod => s!"Pod {pod} 中没有容器"
  | noSuchContainer pod container => s!"Pod {pod} 中没有名为 {container} 的容器"
  | noMatchLabels deployment => s!"Deployment {deployment} 没有定义 matchLabels"
  | noCloudAccount => "无法确定 Google Cloud 用户名，请确认已通过 gcloud 登录"
  | invalidPort written => s!"无效的端口: {written}"
  | portOutOfRange written => s!"端口超出范围: {written}"
  | remotePortZero written => s!"远端端口不能为 0: {written}"
  | criticalPod name status =>
    match name with
    | none | some "" => s!"选中的 Pod 无法启动 (状态: {status})"
    | some name => "Pod '" ++ name ++ s!"' 无法启动 (状态: {status})"
  | waitTimeout selector ns => "等待选择器为 '" ++ selector ++ s!"' 的 Pod 超时 (命名空间: {ns})"
  | noMatchingPod selector ns =>
    s!"在命名空间 {ns} 中找不到选择器为 '" ++ selector ++ "' 的 Pod"
  | cannotConnect pod container detail => s!"无法连接到 {pod}:{container}: {detail}"
  | connectionLost detail => s!"会话连接中断: {detail}"
  | statusUnreadable raw => s!"无法解析会话状态: {raw}"
  | remoteFailure message => message
  | logBroken detail => s!"日志流中断: {detail}"
  | cannotListen addresses port =>
    let joined := ", ".intercalate addresses
    s!"无法在 {joined} 上监听端口 {port}"
  | podGone name => s!"Pod {name} 已不存在"

end Failure

/-- Everything that ends an operation before its result. -/
inductive Halt
  | failed (failure : Failure)
  | fault (fault : Fault)
  | interrupted
  | endOfInput
  | noClusterConfig
  /-- Credentials of a provider are missing or have expired, and new ones cannot be had. -/
  | notRenewed (provider : String)
  | mistake (mistake : Mistake)
  /-- A text cannot be shown, because the console cannot render its markup. -/
  | unrendered (text : String)
  /-- The operation does not end within the number of steps that a run may observe. -/
  | endless
  deriving DecidableEq, Repr, Inhabited

namespace Halt

/-- The text of an error in the menu's report. -/
def text : Halt → String
  | failed f => f.message
  | fault f => f.detail
  | _ => ""

end Halt
end PodReach
