import TrojanDetection.Library.ActiveMean
import TrojanDetection.Library.Adam
import TrojanDetection.Library.BatchMeans
import TrojanDetection.Library.Catalogue
import TrojanDetection.Library.Convolution
import TrojanDetection.Library.Dict
import TrojanDetection.Library.EarlyStopping
import TrojanDetection.Library.FileTree
import TrojanDetection.Library.FreshForest
import TrojanDetection.Library.JsonText
import TrojanDetection.Library.MedianInvariance
import TrojanDetection.Library.Pipeline
import TrojanDetection.Library.Positions
import TrojanDetection.Library.RobustStatistics
import TrojanDetection.Library.Sampling
import TrojanDetection.Library.SharedForest
import TrojanDetection.Library.SmoothedEntropy
import TrojanDetection.Library.TextSearch
import TrojanDetection.Library.Transition
import TrojanDetection.Library.Walk
import TrojanDetection.Python.Basic
import TrojanDetection.Python.Json
import TrojanDetection.Python.Path
import TrojanDetection.Python.Digits
import TrojanDetection.Python.Float
import TrojanDetection.Python.FloatOrder
import TrojanDetection.Python.Sequence
import TrojanDetection.Torch.Layers
import TrojanDetection.Models.ModuleTree
import TrojanDetection.Models.Modules
import TrojanDetection.Models.ResNet
import TrojanDetection.Models.StateDict
import TrojanDetection.Zoo.RepVGG
import TrojanDetection.Zoo.RepVGGNetwork
import TrojanDetection.Zoo.ResNet
import TrojanDetection.Models.ResNetForward
import TrojanDetection.Models.ResNetModules
import TrojanDetection.Zoo.VGG
import TrojanDetection.Zoo.ViT
import TrojanDetection.Zoo.PatchOrder
import TrojanDetection.Zoo.ShuffleNetV2
import TrojanDetection.Zoo.MobileNetV2
import TrojanDetection.Data.Image
import TrojanDetection.Data.TriggerLocality
import TrojanDetection.Data.BadNets
import TrojanDetection.Data.Loaders
import TrojanDetection.Data.TrojAI
import TrojanDetection.Data.ClassLabels
import TrojanDetection.Defenses.NeuralCleanse
import TrojanDetection.Defenses.ReverseEngineering
import TrojanDetection.Defenses.OnnxCleanse
import TrojanDetection.Defenses.RiskFusion
import TrojanDetection.Defenses.FusedScore
import TrojanDetection.Defenses.FusedFloats
import TrojanDetection.Defenses.Activations
import TrojanDetection.Defenses.SpectralFlags
import TrojanDetection.Defenses.FeatureLayer
import TrojanDetection.Defenses.Representations
import TrojanDetection.Defenses.GradientSimilarity
import TrojanDetection.Defenses.FinePruning
import TrojanDetection.Defenses.PrunedBlocks
import TrojanDetection.Defenses.Strip
import TrojanDetection.Defenses.StripEntropy
import TrojanDetection.Defenses.BatchAverages
import TrojanDetection.Defenses.Unlearning
import TrojanDetection.Defenses.WeightAnalysis
import TrojanDetection.Defenses.MadRules
import TrojanDetection.Service.Verdict
import TrojanDetection.Service.Upload
import TrojanDetection.Service.Submission
import TrojanDetection.Service.UploadDirectory
import TrojanDetection.Service.Loader
import TrojanDetection.Service.Rebuild
import TrojanDetection.Service.ScanTask
import TrojanDetection.Service.Discovery
import TrojanDetection.Service.Resolution
import TrojanDetection.Service.TriggerRequest
import TrojanDetection.Service.Report
import TrojanDetection.Service.Dashboard
import TrojanDetection.Service.Progress
import TrojanDetection.Service.Dilution
import TrojanDetection.Service.OnnxScan
import TrojanDetection.Service.LoadedNetwork
import TrojanDetection.Service.VisualForensics
import TrojanDetection.Training.MetaClassifier
import TrojanDetection.Training.Pipeline
import TrojanDetection.Evaluation.AttackSuccess
import TrojanDetection.Evaluation.Benchmark
import TrojanDetection.Evaluation.GroundTruth
import TrojanDetection.Evaluation.HardwareBenchmark
import TrojanDetection.Evaluation.MysterySets
import TrojanDetection.Evaluation.SpectralRecall
import TrojanDetection.Evaluation.StripSeparation
import TrojanDetection.Evaluation.TestMetrics
import TrojanDetection.Evaluation.TrojaiData
import TrojanDetection.Evaluation.Unpacking
import TrojanDetection.Evaluation.WeightPerturbation
import TrojanDetection.Gate.AuditGate
import TrojanDetection.Gate.Clearance
import TrojanDetection.Gate.Workflow
