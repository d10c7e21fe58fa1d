import K8sAgentsOperator.Strings
import K8sAgentsOperator.Types
import K8sAgentsOperator.Retry
import K8sAgentsOperator.Env
import K8sAgentsOperator.ResourceMap
import K8sAgentsOperator.Owners
import K8sAgentsOperator.CreateResourceMap
import K8sAgentsOperator.Inject
import K8sAgentsOperator.Steps
import K8sAgentsOperator.Frame
import K8sAgentsOperator.Attributes
import K8sAgentsOperator.Rerun
import K8sAgentsOperator.ServiceIdentity
import K8sAgentsOperator.SdkInjector
import K8sAgentsOperator.Reinvocation
import K8sAgentsOperator.InjectRun
import K8sAgentsOperator.InjectReturns
import K8sAgentsOperator.InstrumentationWebhook
import K8sAgentsOperator.Admission
import K8sAgentsOperator.AddedEntries
import K8sAgentsOperator.WellFormed
import K8sAgentsOperator.UIDAttributes
import K8sAgentsOperator.MapOrder
import K8sAgentsOperator.Placeholders
import K8sAgentsOperator.InstanceId
