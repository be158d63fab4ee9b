import Raphael.Recovery.BoyerMoore.Safety
import Raphael.Recovery.BoyerMoore.BadCharacter
import Raphael.Recovery.TrustZone.Mapping
import Raphael.ReleaseTools.Theorems
import Raphael.UpdateSha1sums.Atomic
import Raphael.InitRaphael.Theorems
import Raphael.ModemConfig.Theorems
import Raphael.LiveDisplay.Theorems
import Raphael.Lights.Dark
import Raphael.Lights.Conversion
import Raphael.NotificationLed.Overlap
import Raphael.NotificationLed.Breathing
import Raphael.Fingerprint.Notify.Theorems
import Raphael.Fingerprint.FodStatus.Theorems
import Raphael.Fingerprint.Device.Theorems
import Raphael.Fingerprint.Service.Theorems
import Raphael.PopupCamera.Calibration
import Raphael.PopupCamera.Pipeline
import Raphael.PopupCamera.LastEvent
import Raphael.PopupCamera.Debounce
import Raphael.PopupCamera.Requests
import Raphael.PopupCamera.RaiseDialog
import Raphael.PopupCamera.Destroyed
import Raphael.PopupCamera.LedFailures
import Raphael.PopupCamera.DropProtection
import Raphael.PopupCamera.Rest
import Raphael.PopupCamera.Consent
import Raphael.PopupCamera.Waiting
import Raphael.PopupCamera.ErrorDialog
import Raphael.PopupCamera.Survival
import Raphael.Lights.SelfHealing
import Raphael.UpdateSha1sums.Disk
import Raphael.Fingerprint.Service.Forwarding
import Raphael.ModemConfig.Coherent
import Raphael.InitRaphael.Writes
import Raphael.UsbGadget.Rest
import Raphael.UsbGadget.Default
import Raphael.UsbGadget.LateNames
import Raphael.UsbGadget.Asked
import Raphael.ExtractFiles.Theorems
import Raphael.ReleaseTools.Images
import Raphael.PopupCamera.VirtualKeypress
