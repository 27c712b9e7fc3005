import WholeBodyControl.Eigen.Dynamic
import WholeBodyControl.Eigen.PseudoInverse
import WholeBodyControl.TaskPosture.Law
import WholeBodyControl.TaskPostureOTG.State
import WholeBodyControl.TaskPostureOTG.Step
import WholeBodyControl.TaskPostureOTG.Torque
import WholeBodyControl.TaskPostureOTG.Plugin
import WholeBodyControl.TaskPostureOTG.Invariant
import WholeBodyControl.TaskPostureOTG.Register
import WholeBodyControl.TaskPostureOTG.Interleave
import WholeBodyControl.TaskPostureOTG.Run
import WholeBodyControl.TaskPostureOTG.Linearize
import WholeBodyControl.WBCPlugin
import WholeBodyControl.Opspace.Parameter
import WholeBodyControl.Opspace.Dump
import WholeBodyControl.Wbcrun.UserProcess
import WholeBodyControl.Wbcnet.TCPNetConfig
